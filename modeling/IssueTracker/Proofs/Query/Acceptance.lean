import IssueTracker.Proofs.Query.Meaning
import IssueTracker.Proofs.Query.Token

/-!
# Which queries are accepted

A text writes a query when each run of `NOT` stands right before a condition, each token that is read
as a field writes a query by itself, and the conditions on one field stand after runs of one parity
(`Acceptable`).  Nothing else counts, so the groups of a run of `NOT` and the token behind it may
stand in any order (`parseQuery_accepts_iff`).
-/

namespace IssueTracker

/-! ## Conditions among tokens -/

namespace Lexeme

/-- The part of a query that a lexeme puts a condition on, if it does. -/
def condition? : Lexeme → Option Part
  | filter field _ => some (.field field)
  | date field _ => some (.time field)
  | _ => none

/-- Whether a lexeme is read off a name before a colon. -/
def isField : Lexeme → Bool
  | filter .. | date .. | sort _ | limit _ | unknown _ => true
  | not | connective _ | text _ => false

theorem condition?_eq_field {lexeme : Lexeme} {field : FilterField} :
    lexeme.condition? = some (.field field) ↔ ∃ value, lexeme = .filter field value := by
  cases lexeme <;> simp [condition?]

theorem condition?_eq_time {lexeme : Lexeme} {field : DateField} :
    lexeme.condition? = some (.time field) ↔ ∃ value, lexeme = .date field value := by
  cases lexeme <;> simp [condition?]

end Lexeme

/-- A condition on a part stands among tokens, right after so many `NOT`s. -/
def ConditionAt (tokens : List Token) (n : Nat) (part : Part) : Prop :=
  ∃ lexeme, Occurs tokens n lexeme ∧ lexeme.condition? = some part

/-- Tokens with a run of `NOT` among them, which goes on as far as it can in both directions. -/
structure IsNotRun (before run after : List Token) : Prop where
  filled : run ≠ []
  nots : ∀ token ∈ run, Lexeme.ofToken token = .not
  start : ∀ token, before.getLast? = some token → Lexeme.ofToken token ≠ .not
  stop : ∀ token, after.head? = some token → Lexeme.ofToken token ≠ .not

/-- The tokens of a text that writes a query. -/
structure Acceptable (tokens : List Token) : Prop where
  /-- Each run of `NOT` stands right before a condition. -/
  binds : ∀ before run after, tokens = before ++ run ++ after → IsNotRun before run after →
    ∃ token others part, after = token :: others ∧ (Lexeme.ofToken token).condition? = some part
  /-- Each token that is read as a field writes a query by itself. -/
  alone : ∀ token ∈ tokens, (Lexeme.ofToken token).isField →
    ∃ q, parseQuery (String.ofList token) = .ok q
  /-- The conditions on one field stand after runs of one parity, no `NOT` being an even run. -/
  agree : ∀ part n m, ConditionAt tokens n part → ConditionAt tokens m part → n % 2 = m % 2

/-! ## Runs of `NOT` -/

section
variable {tokens left right run : List Token}

theorem trailingNots_nots (nots : ∀ token ∈ run, Lexeme.ofToken token = .not) :
    trailingNots (left ++ run) = trailingNots left + run.length := by
  induction run using List.reverseRecOn with
  | nil => simp
  | append_singleton run token ih =>
    have last := nots token (by simp)
    have before := ih fun t member => nots t (by simp [member])
    rw [← List.append_assoc, trailingNots_concat, if_pos last, before, List.length_append]
    rfl

theorem trailingNots_eq_zero_iff : trailingNots left = 0 ↔
    ∀ token, left.getLast? = some token → Lexeme.ofToken token ≠ .not := by
  rcases List.eq_nil_or_concat left with rfl | ⟨before, token, rfl⟩
  · simp [trailingNots]
  · rw [List.concat_eq_append, trailingNots_concat]
    simp

/-- The run of `NOT` at the end of a list of tokens. -/
theorem exists_trailingRun (tokens : List Token) : ∃ before run, tokens = before ++ run ∧
    run.length = trailingNots tokens ∧ trailingNots before = 0 ∧
    ∀ token ∈ run, Lexeme.ofToken token = .not := by
  induction tokens using List.reverseRecOn with
  | nil => exact ⟨[], [], rfl, rfl, rfl, by simp⟩
  | append_singleton tokens token ih =>
    rw [trailingNots_concat]
    by_cases is : Lexeme.ofToken token = .not
    · obtain ⟨before, run, rfl, length, settled, nots⟩ := ih
      refine ⟨before, run ++ [token], by simp, by simp [is, length], settled, ?_⟩
      simpa [or_imp, forall_and, is] using nots
    · exact ⟨tokens ++ [token], [], by simp, by simp [is], by simp [trailingNots_concat, is], by simp⟩

theorem trailingNots_append (settled : trailingNots left = 0) :
    trailingNots (left ++ right) = trailingNots right := by
  induction right using List.reverseRecOn with
  | nil => simpa [trailingNots] using settled
  | append_singleton right token ih =>
    rw [← List.append_assoc, trailingNots_concat, trailingNots_concat, ih]

/-- What stands among tokens behind others that end without a `NOT` stands there by itself. -/
theorem occurs_append (settled : trailingNots left = 0) {n : Nat} {lexeme : Lexeme} :
    Occurs (left ++ right) n lexeme ↔ Occurs left n lexeme ∨ Occurs right n lexeme := by
  induction right using List.reverseRecOn with
  | nil => simp [Occurs]
  | append_singleton right token ih =>
    rw [← List.append_assoc, occurs_concat, occurs_concat, ih, trailingNots_append settled, or_assoc]

end

/-- Nothing but a `NOT` or a condition stands behind a `NOT`. -/
def BindsNots (tokens : List Token) : Prop :=
  ∀ n lexeme, Occurs tokens n lexeme → 0 < n → lexeme = .not ∨ lexeme.condition?.isSome

/-- The runs of `NOT` stand before conditions when only conditions follow them and none is left at
    the end. -/
theorem binds_iff {tokens : List Token} :
    (∀ before run after, tokens = before ++ run ++ after → IsNotRun before run after →
      ∃ token others part, after = token :: others ∧ (Lexeme.ofToken token).condition? = some part) ↔
    BindsNots tokens ∧ trailingNots tokens = 0 := by
  constructor
  · intro binds
    refine ⟨?_, ?_⟩
    · rintro n lexeme ⟨earlier, token, after, split, is, count⟩ behind
      by_cases isNot : lexeme = .not
      · exact Or.inl isNot
      -- The run that ends before the token goes on no further, as the token is no `NOT`.
      obtain ⟨before, run, rfl, length, settled, nots⟩ := exists_trailingRun earlier
      have filled : run ≠ [] := List.ne_nil_of_length_pos (by omega)
      have stop : ∀ t, (token :: after).head? = some t → Lexeme.ofToken t ≠ .not := by
        rintro t ⟨rfl⟩
        exact is ▸ isNot
      obtain ⟨t, others, part, same, isCondition⟩ := binds before run (token :: after) split
        ⟨filled, nots, trailingNots_eq_zero_iff.mp settled, stop⟩
      cases same
      exact Or.inr (by rw [← is, isCondition]; rfl)
    · obtain ⟨before, run, split, length, settled, nots⟩ := exists_trailingRun tokens
      rw [← length, List.length_eq_zero_iff]
      by_contra filled
      obtain ⟨t, others, part, same, _⟩ := binds before run [] (by simpa using split)
        ⟨filled, nots, trailingNots_eq_zero_iff.mp settled, by simp⟩
      cases same
  · rintro ⟨binds, ended⟩ before run after rfl isRun
    have length := List.length_pos_iff.mpr isRun.filled
    have count : trailingNots (before ++ run) = _ := trailingNots_nots isRun.nots
    cases after with
    | nil =>
      rw [List.append_nil] at ended
      omega
    | cons token others =>
      have stands : Occurs (before ++ run ++ token :: others) _ (Lexeme.ofToken token) :=
        ⟨before ++ run, token, others, rfl, rfl, rfl⟩
      rcases binds _ _ stands (by omega) with isNot | isCondition
      · exact absurd isNot (isRun.stop token rfl)
      · obtain ⟨part, isCondition⟩ := Option.isSome_iff_exists.mp isCondition
        exact ⟨token, others, part, rfl, isCondition⟩

/-! ## One more token -/

section
variable {tokens : List Token} {d : Draft} {token : Token}

theorem conditionAt_field {n : Nat} {field : FilterField} :
    ConditionAt tokens n (.field field) ↔ ∃ value, Occurs tokens n (.filter field value) := by
  constructor
  · rintro ⟨lexeme, stands, is⟩
    obtain ⟨value, rfl⟩ := Lexeme.condition?_eq_field.mp is
    exact ⟨value, stands⟩
  · rintro ⟨value, stands⟩
    exact ⟨_, stands, rfl⟩

theorem conditionAt_time {n : Nat} {field : DateField} :
    ConditionAt tokens n (.time field) ↔ ∃ value, Occurs tokens n (.date field value) := by
  constructor
  · rintro ⟨lexeme, stands, is⟩
    obtain ⟨value, rfl⟩ := Lexeme.condition?_eq_time.mp is
    exact ⟨value, stands⟩
  · rintro ⟨value, stands⟩
    exact ⟨_, stands, rfl⟩

theorem conditionAt_concat {n : Nat} {part : Part} :
    ConditionAt (tokens ++ [token]) n part ↔ ConditionAt tokens n part ∨
      (trailingNots tokens = n ∧ (Lexeme.ofToken token).condition? = some part) := by
  simp only [ConditionAt, occurs_concat, or_and_right, exists_or]
  refine or_congr_right ⟨?_, ?_⟩
  · rintro ⟨lexeme, ⟨count, rfl⟩, is⟩
    exact ⟨count, is⟩
  · rintro ⟨count, is⟩
    exact ⟨_, ⟨count, rfl⟩, is⟩

theorem Draft.Holds.exists_filterWritten (h : d.Holds tokens) {n : Nat} {field : FilterField} :
    (∃ values, FilterWritten tokens n field values) ↔ ConditionAt tokens n (.field field) := by
  rw [conditionAt_field]
  constructor
  · rintro ⟨_, value, stands, _⟩
    exact ⟨value, stands⟩
  · rintro ⟨value, stands⟩
    obtain ⟨values, reads⟩ := h.filtersRead n field value stands
    exact ⟨values, value, stands, reads⟩

theorem Draft.Holds.exists_boundWritten (h : d.Holds tokens) {n : Nat} {field : DateField} :
    (∃ bounds, BoundWritten tokens n field bounds) ↔ ConditionAt tokens n (.time field) := by
  rw [conditionAt_time]
  constructor
  · rintro ⟨_, value, _, stands, _, _⟩
    exact ⟨value, stands⟩
  · rintro ⟨value, stands⟩
    obtain ⟨bound, writes⟩ := h.boundsRead n field value stands
    exact ⟨[bound], value, bound, stands, writes, rfl⟩

/-- A filter agrees with a draft when the conditions on its field that stand among the tokens do. -/
theorem Draft.Holds.filter_agrees (h : d.Holds tokens) {field : FilterField} :
    conflicts field (d.pending.getD false) d.filters = false ↔
      ∀ n, ConditionAt tokens n (.field field) → n % 2 = trailingNots tokens % 2 := by
  rw [h.pending, getD_pendingAfter, h.filters.conflicts_eq_false_iff]
  exact forall_congr' fun n => imp_congr_left h.exists_filterWritten

theorem Draft.Holds.date_agrees (h : d.Holds tokens) {field : DateField} :
    conflicts field (d.pending.getD false) d.bounds = false ↔
      ∀ n, ConditionAt tokens n (.time field) → n % 2 = trailingNots tokens % 2 := by
  rw [h.pending, getD_pendingAfter, h.bounds.conflicts_eq_false_iff]
  exact forall_congr' fun n => imp_congr_left h.exists_boundWritten

theorem Draft.Holds.pending_eq_none_iff (h : d.Holds tokens) :
    d.pending = none ↔ trailingNots tokens = 0 := by
  rw [h.pending, pendingAfter]
  split <;> simp_all

/-- A token fits behind others: no `NOT` before it is left without a condition, and its condition
    agrees with those on the same field. -/
structure FitsAfter (tokens : List Token) (lexeme : Lexeme) : Prop where
  bound : trailingNots tokens = 0 ∨ lexeme = .not ∨ lexeme.condition?.isSome
  agrees : ∀ part, lexeme.condition? = some part →
    ∀ n, ConditionAt tokens n part → n % 2 = trailingNots tokens % 2

/-- A token is read behind others exactly when it is read at the start and fits behind them. -/
theorem Draft.Holds.exists_reads_iff (h : d.Holds tokens) : (∃ d', d.Reads token d') ↔
    (∃ d', ({} : Draft).Reads token d') ∧ FitsAfter tokens (Lexeme.ofToken token) := by
  -- Of what a draft holds, only a pending `NOT` and the signs of its conditions can stop a token.
  have settled := h.pending_eq_none_iff
  constructor
  · rintro ⟨d', reads⟩
    cases reads with
    | not is => exact ⟨⟨_, .not is⟩, Or.inr (Or.inl is), by simp [is, Lexeme.condition?]⟩
    | connective is free =>
      exact ⟨⟨_, .connective is rfl⟩, Or.inl (settled.mp free), by simp [is, Lexeme.condition?]⟩
    | sort is free reads =>
      exact ⟨⟨_, .sort is rfl reads⟩, Or.inl (settled.mp free), by simp [is, Lexeme.condition?]⟩
    | limit is free reads =>
      exact ⟨⟨_, .limit is rfl reads⟩, Or.inl (settled.mp free), by simp [is, Lexeme.condition?]⟩
    | text is free =>
      exact ⟨⟨_, .text is rfl⟩, Or.inl (settled.mp free), by simp [is, Lexeme.condition?]⟩
    | filter is agrees reads =>
      refine ⟨⟨_, .filter is rfl reads⟩, by simp [is, Lexeme.condition?], ?_⟩
      rw [is]
      rintro part ⟨rfl⟩
      exact h.filter_agrees.mp agrees
    | date is agrees reads =>
      refine ⟨⟨_, .date is rfl reads⟩, by simp [is, Lexeme.condition?], ?_⟩
      rw [is]
      rintro part ⟨rfl⟩
      exact h.date_agrees.mp agrees
  · rintro ⟨⟨d', reads⟩, bound, agrees⟩
    have free (other : Lexeme.ofToken token ≠ .not) (plain : (Lexeme.ofToken token).condition? = none) :
        d.pending = none := by
      rcases bound with none | isNot | isCondition
      · exact settled.mpr none
      · exact absurd isNot other
      · simp [plain] at isCondition
    cases reads with
    | not is => exact ⟨_, .not is⟩
    | connective is _ => exact ⟨_, .connective is (free (by simp [is]) (by simp [is, Lexeme.condition?]))⟩
    | sort is _ reads => exact ⟨_, .sort is (free (by simp [is]) (by simp [is, Lexeme.condition?])) reads⟩
    | limit is _ reads =>
      exact ⟨_, .limit is (free (by simp [is]) (by simp [is, Lexeme.condition?])) reads⟩
    | text is _ => exact ⟨_, .text is (free (by simp [is]) (by simp [is, Lexeme.condition?]))⟩
    | filter is _ reads =>
      exact ⟨_, .filter is (h.filter_agrees.mpr (agrees _ (by rw [is]; rfl))) reads⟩
    | date is _ reads => exact ⟨_, .date is (h.date_agrees.mpr (agrees _ (by rw [is]; rfl))) reads⟩

end

/-! ## All tokens -/

/-- Tokens that are read, though a run of `NOT` may be left at their end. -/
structure Readable (tokens : List Token) : Prop where
  binds : BindsNots tokens
  each : ∀ token ∈ tokens, ∃ d, ({} : Draft).Reads token d
  agree : ∀ part n m, ConditionAt tokens n part → ConditionAt tokens m part → n % 2 = m % 2

theorem not_occurs_nil {n : Nat} {lexeme : Lexeme} : ¬Occurs [] n lexeme := by
  rintro ⟨before, token, after, split, _⟩
  simp at split

theorem readable_nil : Readable [] :=
  ⟨fun _ _ there => absurd there not_occurs_nil, by simp,
    fun _ _ _ ⟨_, there, _⟩ => absurd there not_occurs_nil⟩

theorem fitsAfter_nil (lexeme : Lexeme) : FitsAfter [] lexeme :=
  ⟨Or.inl rfl, fun _ _ _ ⟨_, there, _⟩ => absurd there not_occurs_nil⟩

theorem readable_concat {tokens : List Token} {token : Token} : Readable (tokens ++ [token]) ↔
    Readable tokens ∧ (∃ d, ({} : Draft).Reads token d) ∧ FitsAfter tokens (Lexeme.ofToken token) := by
  constructor
  · intro h
    refine ⟨⟨?_, ?_, ?_⟩, h.each token (by simp), ?_, ?_⟩
    · exact fun n lexeme there => h.binds n lexeme (occurs_concat.mpr (Or.inl there))
    · exact fun t member => h.each t (by simp [member])
    · exact fun part n m first second => h.agree part n m (conditionAt_concat.mpr (Or.inl first))
        (conditionAt_concat.mpr (Or.inl second))
    · rcases Nat.eq_zero_or_pos (trailingNots tokens) with none | some
      · exact Or.inl none
      · exact Or.inr (h.binds _ _ (occurs_concat.mpr (Or.inr ⟨rfl, rfl⟩)) some)
    · exact fun part is n there => h.agree part n _ (conditionAt_concat.mpr (Or.inl there))
        (conditionAt_concat.mpr (Or.inr ⟨rfl, is⟩))
  · rintro ⟨h, reads, fits⟩
    refine ⟨?_, ?_, ?_⟩
    · intro n lexeme there some
      rcases occurs_concat.mp there with before | ⟨rfl, rfl⟩
      · exact h.binds n lexeme before some
      · exact fits.bound.resolve_left (Nat.ne_of_gt some)
    · intro t member
      rcases List.mem_append.mp member with before | last
      · exact h.each t before
      · exact List.mem_singleton.mp last ▸ reads
    · intro part n m first second
      rcases conditionAt_concat.mp first with first | ⟨rfl, is⟩ <;>
        rcases conditionAt_concat.mp second with second | ⟨rfl, is'⟩
      · exact h.agree part n m first second
      · exact fits.agrees part is' n first
      · exact (fits.agrees part is m second).symm
      · rfl

/-- Whether tokens are read does not depend on what a draft remembers of those before. -/
theorem exists_readTokens_iff {tokens : List Token} :
    (∃ d, readTokens tokens = .ok d) ↔ Readable tokens := by
  -- The last token is taken off: whether it is read depends on what all those before it made.
  induction tokens using List.reverseRecOn with
  | nil => exact ⟨fun _ => readable_nil, fun _ => ⟨{}, rfl⟩⟩
  | append_singleton tokens token ih =>
    rw [readable_concat, ← ih]
    constructor
    · rintro ⟨d', run⟩
      rw [readTokens_concat] at run
      obtain ⟨d, read, step⟩ := bind_eq_ok.mp run
      exact ⟨⟨d, read⟩,
        (readTokens_holds read).exists_reads_iff.mp ⟨d', Draft.reads_of_step step⟩⟩
    · rintro ⟨⟨d, read⟩, fits⟩
      obtain ⟨d', reads⟩ := (readTokens_holds read).exists_reads_iff.mpr fits
      exact ⟨d', by rw [readTokens_concat, read]; exact reads.step_eq⟩

/-- Tokens are read with no run of `NOT` left. -/
theorem exists_settled_iff {tokens : List Token} :
    (∃ d, readTokens tokens = .ok d ∧ d.pending = none) ↔
      Readable tokens ∧ trailingNots tokens = 0 := by
  rw [← exists_readTokens_iff]
  constructor
  · rintro ⟨d, read, free⟩
    exact ⟨⟨d, read⟩, (readTokens_holds read).pending_eq_none_iff.mp free⟩
  · rintro ⟨⟨d, read⟩, ended⟩
    exact ⟨d, read, (readTokens_holds read).pending_eq_none_iff.mpr ended⟩

theorem exists_parseQuery_iff_readable {raw : String} : (∃ q, parseQuery raw = .ok q) ↔
    Readable (tokenize raw.toList) ∧ trailingNots (tokenize raw.toList) = 0 := by
  rw [← exists_settled_iff]
  constructor
  · rintro ⟨q, parsed⟩
    obtain ⟨d, read, free, _⟩ := parseQuery_eq_ok.mp parsed
    exact ⟨d, read, free⟩
  · rintro ⟨d, read, free⟩
    exact ⟨d.query, parseQuery_eq_ok.mpr ⟨d, read, free, rfl⟩⟩

/-- A token of a text writes a query by itself exactly when it is read at the start and is no `NOT`. -/
theorem exists_parseQuery_token {raw : List Char} {token : Token} (member : token ∈ tokenize raw) :
    (∃ q, parseQuery (String.ofList token) = .ok q) ↔
      (∃ d, ({} : Draft).Reads token d) ∧ Lexeme.ofToken token ≠ .not := by
  have read : Readable [token] ↔ ∃ d, ({} : Draft).Reads token d := by
    have concat : Readable ([] ++ [token]) ↔ _ := readable_concat
    simpa [readable_nil, fitsAfter_nil] using concat
  have ended : trailingNots [token] = 0 ↔ Lexeme.ofToken token ≠ .not := by
    simp [trailingNots_eq_zero_iff]
  rw [exists_parseQuery_iff_readable, String.toList_ofList, tokenize_of_mem_tokenize member, read, ended]

/-- A token that is not read as a field is read at the start. -/
theorem exists_reads_of_not_isField {token : Token} (other : (Lexeme.ofToken token).isField = false) :
    ∃ d, ({} : Draft).Reads token d := by
  cases is : Lexeme.ofToken token with
  | not => exact ⟨_, .not is⟩
  | connective connective => exact ⟨_, .connective is rfl⟩
  | text value => exact ⟨_, .text is rfl⟩
  | _ => simp [is, Lexeme.isField] at other

theorem acceptable_tokenize_iff {raw : List Char} : Acceptable (tokenize raw) ↔
    Readable (tokenize raw) ∧ trailingNots (tokenize raw) = 0 := by
  constructor
  · intro h
    obtain ⟨binds, ended⟩ := binds_iff.mp h.binds
    refine ⟨⟨binds, ?_, h.agree⟩, ended⟩
    intro token member
    cases isField : (Lexeme.ofToken token).isField with
    | true => exact ((exists_parseQuery_token member).mp (h.alone token member isField)).1
    | false => exact exists_reads_of_not_isField isField
  · rintro ⟨h, ended⟩
    refine ⟨binds_iff.mpr ⟨h.binds, ended⟩, ?_, h.agree⟩
    intro token member isField
    refine (exists_parseQuery_token member).mpr ⟨h.each token member, ?_⟩
    intro isNot
    rw [isNot] at isField
    cases isField

/-! ## Groups -/

/-- The groups of tokens behind a run of `NOT` that has been read. -/
def groupsAfter (run : List Token) : List Token → List (List Token)
  | [] => if run.isEmpty then [] else [run]
  | token :: tokens =>
    if Lexeme.ofToken token = .not then groupsAfter (run ++ [token]) tokens
    else (run ++ [token]) :: groupsAfter [] tokens

/-- The groups of tokens: each token that is no `NOT`, with the run of `NOT` before it.  A run that is
    left at the end is a group of its own. -/
def notGroups (tokens : List Token) : List (List Token) := groupsAfter [] tokens

section
variable (tokens run : List Token)

theorem flatten_groupsAfter : (groupsAfter run tokens).flatten = run ++ tokens := by
  induction tokens generalizing run with
  | nil => cases run <;> simp [groupsAfter]
  | cons token tokens ih =>
    rw [groupsAfter]
    split
    · rw [ih]
      simp
    · simp [ih]

theorem trailingNots_groupsAfter : trailingNots (run ++ tokens) = 0 ↔
    ∀ group ∈ groupsAfter run tokens, trailingNots group = 0 := by
  induction tokens generalizing run with
  | nil =>
    cases run with
    | nil => simp [groupsAfter, trailingNots]
    | cons first others => simp [groupsAfter]
  | cons token tokens ih =>
    have moved : run ++ token :: tokens = (run ++ [token]) ++ tokens := by simp
    rw [groupsAfter, moved]
    split
    · exact ih _
    · rename_i other
      have settled : trailingNots (run ++ [token]) = 0 := by rw [trailingNots_concat, if_neg other]
      have rest := ih []
      rw [List.nil_append] at rest
      rw [trailingNots_append settled, rest]
      simp [settled]

theorem occurs_groupsAfter {n : Nat} {lexeme : Lexeme} : Occurs (run ++ tokens) n lexeme ↔
    ∃ group ∈ groupsAfter run tokens, Occurs group n lexeme := by
  induction tokens generalizing run with
  | nil =>
    cases run with
    | nil => simp [groupsAfter, not_occurs_nil]
    | cons first others => simp [groupsAfter]
  | cons token tokens ih =>
    have moved : run ++ token :: tokens = (run ++ [token]) ++ tokens := by simp
    rw [groupsAfter, moved]
    split
    · exact ih _
    · rename_i other
      have settled : trailingNots (run ++ [token]) = 0 := by rw [trailingNots_concat, if_neg other]
      have rest := ih []
      rw [List.nil_append] at rest
      rw [occurs_append settled, rest]
      simp

end

/-- What decides whether tokens are read does not depend on the order of their groups. -/
theorem readable_of_perm {tokens others : List Token}
    (reordered : (notGroups tokens).Perm (notGroups others))
    (h : Readable tokens ∧ trailingNots tokens = 0) :
    Readable others ∧ trailingNots others = 0 := by
  have occurs (n : Nat) (lexeme : Lexeme) : Occurs others n lexeme ↔ Occurs tokens n lexeme := by
    have here : Occurs ([] ++ tokens) n lexeme ↔ _ := occurs_groupsAfter tokens []
    have there : Occurs ([] ++ others) n lexeme ↔ _ := occurs_groupsAfter others []
    rw [List.nil_append, ← notGroups] at here there
    simp only [here, there, reordered.mem_iff]
  have members : others.Perm tokens := by
    have flattened := reordered.symm.flatten
    rwa [notGroups, notGroups, flatten_groupsAfter, flatten_groupsAfter] at flattened
  have conditions (n : Nat) (part : Part) : ConditionAt others n part ↔ ConditionAt tokens n part := by
    simp only [ConditionAt, occurs]
  obtain ⟨read, ended⟩ := h
  refine ⟨⟨?_, ?_, ?_⟩, ?_⟩
  · exact fun n lexeme there => read.binds n lexeme ((occurs n lexeme).mp there)
  · exact fun token member => read.each token (members.mem_iff.mp member)
  · exact fun part n m first second => read.agree part n m ((conditions n part).mp first)
      ((conditions m part).mp second)
  · have here := trailingNots_groupsAfter tokens []
    have there := trailingNots_groupsAfter others []
    rw [List.nil_append, ← notGroups] at here there
    rw [there]
    exact fun group member => here.mp ended group (reordered.mem_iff.mpr member)

/-- A text writes a query exactly when its tokens are acceptable, and writes one in any other order of
    their groups as well. -/
theorem parseQuery_accepts_iff (raw : String) :
    ((∃ q, parseQuery raw = .ok q) ↔ Acceptable (tokenize raw.toList)) ∧
      ∀ other : String,
        (notGroups (tokenize raw.toList)).Perm (notGroups (tokenize other.toList)) →
        ((∃ q, parseQuery raw = .ok q) ↔ ∃ q, parseQuery other = .ok q) := by
  refine ⟨?_, ?_⟩
  · rw [exists_parseQuery_iff_readable, acceptable_tokenize_iff]
  · intro other reordered
    rw [exists_parseQuery_iff_readable, exists_parseQuery_iff_readable]
    exact ⟨readable_of_perm reordered, readable_of_perm reordered.symm⟩

/-- A cancelled `NOT`, an odd one, an order and a text change their places. -/
theorem parseQuery_accepts_iff_reordered :
    (notGroups (tokenize "NOT NOT type:bug fix NOT Label:a sort:id".toList)).Perm
        (notGroups (tokenize "sort:id NOT Label:a NOT NOT type:bug fix".toList)) ∧
      ((∃ q, parseQuery "NOT NOT type:bug fix NOT Label:a sort:id" = .ok q) ↔
        ∃ q, parseQuery "sort:id NOT Label:a NOT NOT type:bug fix" = .ok q) := by
  have reordered : (notGroups (tokenize "NOT NOT type:bug fix NOT Label:a sort:id".toList)).Perm
      (notGroups (tokenize "sort:id NOT Label:a NOT NOT type:bug fix".toList)) := by decide +kernel
  exact ⟨reordered, (parseQuery_accepts_iff _).2 _ reordered⟩

end IssueTracker
