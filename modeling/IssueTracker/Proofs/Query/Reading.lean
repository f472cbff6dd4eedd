import Mathlib.Data.List.Induction
import IssueTracker.Proofs.Outcome
import IssueTracker.Proofs.Query.Bound
import IssueTracker.Proofs.Query.Gathering

/-!
# What a draft holds of the tokens that were read

Reading goes token by token.  `Draft.Reads` tells for each kind of token when it is read and what
it makes of the draft; `readTokens_induction` carries what every token keeps through all of them.
Its first use is `Draft.Holds`: a draft is determined by the tokens read so far, whatever the order
in which its parts came.
-/

namespace IssueTracker

/-! ## One token -/

/-- A token is read, and makes one draft of another. -/
inductive Draft.Reads (d : Draft) (token : Token) : Draft → Prop
  | not (is : Lexeme.ofToken token = .not) :
      Reads d token { d with pending := some (!d.pending.getD false) }
  | connective {connective : Connective} (is : Lexeme.ofToken token = .connective connective)
      (free : d.pending = none) :
      Reads d token { d with
        connective := some connective
        switches := if d.connective.any (· != connective) then d.switches ++ [connective]
          else d.switches }
  | sort {value : List Char} {order : SortOrder} (is : Lexeme.ofToken token = .sort value)
      (free : d.pending = none) (reads : readSort value = .ok order) :
      Reads d token { d with sort := some order }
  | limit {value : List Char} {limit : Nat} (is : Lexeme.ofToken token = .limit value)
      (free : d.pending = none) (reads : readLimit value token = .ok limit) :
      Reads d token { d with limit := some limit }
  | filter {field : FilterField} {value : List Char} {values : List String}
      (is : Lexeme.ofToken token = .filter field value)
      (agrees : conflicts field (d.pending.getD false) d.filters = false)
      (reads : filterValues field value = .ok values) :
      Reads d token { d with
        filters := addCondition (List.foldl addNew) field (d.pending.getD false) values d.filters
        pending := none }
  | date {field : DateField} {value : List Char} {bound : Bound}
      (is : Lexeme.ofToken token = .date field value)
      (agrees : conflicts field (d.pending.getD false) d.bounds = false)
      (reads : Bound.read (String.ofList value) (String.ofList token) = .ok bound) :
      Reads d token { d with
        bounds := addCondition (· ++ ·) field (d.pending.getD false) [bound] d.bounds
        pending := none }
  | text {value : List Char} (is : Lexeme.ofToken token = .text value) (free : d.pending = none) :
      Reads d token { d with text := if value.isEmpty then d.text else d.text ++ [value] }

theorem noPending_eq_ok {d : Draft} {token : Token} :
    d.noPending token = .ok () ↔ d.pending = none := by
  cases free : d.pending <;> simp [Draft.noPending, reject, free]

theorem Draft.reads_of_step {d d' : Draft} {token : Token} (run : d.step token = .ok d') :
    d.Reads token d' := by
  rw [step] at run
  cases is : Lexeme.ofToken token with
  | not =>
    rw [is] at run
    cases run
    exact .not is
  | connective connective =>
    rw [is] at run
    obtain ⟨_, free, run⟩ := bind_eq_ok.mp run
    cases run
    exact .connective is (noPending_eq_ok.mp free)
  | unknown name =>
    rw [is] at run
    cases run
  | sort value =>
    rw [is] at run
    obtain ⟨_, free, run⟩ := bind_eq_ok.mp run
    obtain ⟨order, reads, run⟩ := bind_eq_ok.mp run
    cases run
    exact .sort is (noPending_eq_ok.mp free) (mapError_eq_ok.mp reads)
  | limit value =>
    rw [is] at run
    obtain ⟨_, free, run⟩ := bind_eq_ok.mp run
    obtain ⟨limit, reads, run⟩ := bind_eq_ok.mp run
    cases run
    exact .limit is (noPending_eq_ok.mp free) reads
  | filter field value =>
    rw [is] at run
    obtain ⟨agrees, run⟩ := ite_error_eq_ok.mp run
    obtain ⟨values, reads, run⟩ := bind_eq_ok.mp run
    cases run
    exact .filter is (eq_false_of_ne_true agrees) (mapError_eq_ok.mp reads)
  | date field value =>
    rw [is] at run
    obtain ⟨agrees, run⟩ := ite_error_eq_ok.mp run
    obtain ⟨bound, reads, run⟩ := bind_eq_ok.mp run
    cases run
    exact .date is (eq_false_of_ne_true agrees) (mapError_eq_ok.mp reads)
  | text value =>
    rw [is] at run
    obtain ⟨_, free, run⟩ := bind_eq_ok.mp run
    cases run
    exact .text is (noPending_eq_ok.mp free)

theorem Draft.Reads.step_eq {d d' : Draft} {token : Token} (reads : d.Reads token d') :
    d.step token = .ok d' := by
  cases reads with
  | not is => simp only [step, is]
  | connective is free => simp only [step, is, noPending_eq_ok.mpr free]; rfl
  | sort is free reads => simp only [step, is, noPending_eq_ok.mpr free, reads]; rfl
  | limit is free reads => simp only [step, is, noPending_eq_ok.mpr free, reads]; rfl
  | filter is agrees reads => simp only [step, is, agrees, reads]; rfl
  | date is agrees reads => simp only [step, is, agrees, reads]; rfl
  | text is free => simp only [step, is, noPending_eq_ok.mpr free]; rfl

/-! ## All tokens -/

theorem readTokens_concat {tokens : List Token} {token : Token} :
    readTokens (tokens ++ [token]) = (readTokens tokens >>= fun d => d.step token) := by
  simp [readTokens, List.foldlM_append]

/-- What holds of the draft before any token, and is kept by every token that is read, holds of the
    draft after all of them. -/
theorem readTokens_induction {motive : List Token → Draft → Prop} (start : motive [] {})
    (step : ∀ tokens d token d', motive tokens d → d.Reads token d' →
      motive (tokens ++ [token]) d') :
    ∀ {tokens : List Token} {d : Draft}, readTokens tokens = .ok d → motive tokens d := by
  intro tokens
  induction tokens using List.reverseRecOn with
  | nil =>
    intro d run
    cases run
    exact start
  | append_singleton tokens token ih =>
    intro d' run
    rw [readTokens_concat] at run
    obtain ⟨d, before, run⟩ := bind_eq_ok.mp run
    exact step tokens d token d' (ih before) (Draft.reads_of_step run)

/-- The query of a draft in which no run of `NOT` is left. -/
def Draft.query (d : Draft) : Query :=
  { text := " ".intercalate (d.text.map String.ofList)
    filters := d.filters
    bounds := d.bounds
    connective := d.connective.getD .and
    sort := d.sort
    limit := d.limit.map Int.ofNat }

/-- A text writes a query when its tokens are read and no run of `NOT` is left at the end. -/
theorem parseQuery_eq_ok {raw : String} {q : Query} :
    parseQuery raw = .ok q ↔
      ∃ d, readTokens (tokenize raw.toList) = .ok d ∧ d.pending = none ∧ d.query = q := by
  rw [parseQuery, map_eq_ok]
  constructor
  · rintro ⟨reading, run, rfl⟩
    obtain ⟨d, read, run⟩ := bind_eq_ok.mp run
    obtain ⟨q, finish, run⟩ := bind_eq_ok.mp run
    cases run
    cases free : d.pending with
    | some _ => simp [Draft.finish, free, reject] at finish
    | none =>
      simp only [Draft.finish, free] at finish
      cases finish
      exact ⟨d, read, free, rfl⟩
  · rintro ⟨d, read, free, rfl⟩
    have finish : d.finish = .ok d.query := by simp [Draft.finish, free, Draft.query]
    exact ⟨⟨d.query, d.switches⟩, bind_eq_ok.mpr ⟨d, read, bind_eq_ok.mpr ⟨d.query, finish, rfl⟩⟩, rfl⟩

/-! ## Where lexemes stand -/

/-- The number of `NOT`s at the end of a list of tokens. -/
def trailingNots (tokens : List Token) : Nat :=
  (tokens.reverse.takeWhile fun token => Lexeme.ofToken token = .not).length

/-- A lexeme stands among tokens, right after so many `NOT`s. -/
def Occurs (tokens : List Token) (n : Nat) (lexeme : Lexeme) : Prop :=
  ∃ before token after, tokens = before ++ token :: after ∧ Lexeme.ofToken token = lexeme ∧
    trailingNots before = n

/-- Values are written for a filter field after so many `NOT`s. -/
def FilterWritten (tokens : List Token) (n : Nat) (field : FilterField) (values : List String) :
    Prop :=
  ∃ value, Occurs tokens n (.filter field value) ∧ filterValues field value = .ok values

/-- A bound is written for a date field after so many `NOT`s. -/
def BoundWritten (tokens : List Token) (n : Nat) (field : DateField) (bounds : List Bound) : Prop :=
  ∃ value bound, Occurs tokens n (.date field value) ∧ Bound.Writes value bound ∧ bounds = [bound]

/-- The connectives among tokens, in order. -/
def connectives (tokens : List Token) : List Connective :=
  tokens.filterMap fun token =>
    match Lexeme.ofToken token with
    | .connective connective => some connective
    | _ => none

/-- The free text among tokens, in order, without the pieces that are empty. -/
def freeTexts (tokens : List Token) : List (List Char) :=
  tokens.filterMap fun token =>
    match Lexeme.ofToken token with
    | .text value => if value.isEmpty then none else some value
    | _ => none

section
variable {tokens : List Token} {token : Token}

theorem trailingNots_concat :
    trailingNots (tokens ++ [token]) =
      if Lexeme.ofToken token = .not then trailingNots tokens + 1 else 0 := by
  by_cases is : Lexeme.ofToken token = .not <;> simp [trailingNots, is]

theorem occurs_concat {n : Nat} {lexeme : Lexeme} :
    Occurs (tokens ++ [token]) n lexeme ↔
      Occurs tokens n lexeme ∨ (trailingNots tokens = n ∧ Lexeme.ofToken token = lexeme) := by
  constructor
  · rintro ⟨before, t, after, split, is, count⟩
    rcases List.eq_nil_or_concat after with rfl | ⟨middle, last, rfl⟩
    · obtain ⟨rfl, single⟩ := List.append_inj' split rfl
      cases single
      exact Or.inr ⟨count, is⟩
    · have assoc : tokens ++ [token] = (before ++ t :: middle) ++ [last] := by simpa using split
      obtain ⟨rfl, _⟩ := List.append_inj' assoc rfl
      exact Or.inl ⟨before, t, middle, rfl, is, count⟩
  · rintro (⟨before, t, after, rfl, is, count⟩ | ⟨count, is⟩)
    · exact ⟨before, t, after ++ [token], by simp, is, count⟩
    · exact ⟨tokens, token, [], rfl, is, count⟩

theorem filterWritten_concat {n : Nat} {field : FilterField} {values : List String} :
    FilterWritten (tokens ++ [token]) n field values ↔ FilterWritten tokens n field values ∨
      ∃ value, trailingNots tokens = n ∧ Lexeme.ofToken token = .filter field value ∧
        filterValues field value = .ok values := by
  simp only [FilterWritten, occurs_concat, or_and_right, exists_or, and_assoc]

theorem boundWritten_concat {n : Nat} {field : DateField} {bounds : List Bound} :
    BoundWritten (tokens ++ [token]) n field bounds ↔ BoundWritten tokens n field bounds ∨
      ∃ value bound, trailingNots tokens = n ∧ Lexeme.ofToken token = .date field value ∧
        Bound.Writes value bound ∧ bounds = [bound] := by
  simp only [BoundWritten, occurs_concat, or_and_right, exists_or, and_assoc]

/-- A token that is no filter writes no values for a filter field. -/
theorem filterWritten_concat_of_ne (other : ∀ field value, Lexeme.ofToken token ≠ .filter field value) :
    FilterWritten (tokens ++ [token]) = FilterWritten tokens := by
  funext n field values
  simp [filterWritten_concat, other]

/-- A token that is no date writes no bound. -/
theorem boundWritten_concat_of_ne (other : ∀ field value, Lexeme.ofToken token ≠ .date field value) :
    BoundWritten (tokens ++ [token]) = BoundWritten tokens := by
  funext n field bounds
  simp [boundWritten_concat, other]

end

/-! ## The draft after all tokens -/

/-- What a draft remembers of a run of `NOT`s. -/
def pendingAfter (n : Nat) : Option Bool := if n = 0 then none else some (decide (n % 2 = 1))

theorem getD_pendingAfter (n : Nat) : (pendingAfter n).getD false = decide (n % 2 = 1) := by
  by_cases none : n = 0 <;> simp [pendingAfter, none]

theorem pendingAfter_succ (n : Nat) :
    pendingAfter (n + 1) = some (!(pendingAfter n).getD false) := by
  rw [getD_pendingAfter, pendingAfter, if_neg (Nat.succ_ne_zero n)]
  by_cases odd : n % 2 = 1
  · simp [odd, show ¬(n + 1) % 2 = 1 by omega]
  · simp [odd, show (n + 1) % 2 = 1 by omega]

/-- A draft holds what the tokens say: every part of it but the order and the limit. -/
structure Draft.Holds (tokens : List Token) (d : Draft) : Prop where
  pending : d.pending = pendingAfter (trailingNots tokens)
  filters : Gathers (FilterWritten tokens) d.filters
  bounds : Gathers (BoundWritten tokens) d.bounds
  filtersRead : ∀ n field value, Occurs tokens n (.filter field value) →
    ∃ values, filterValues field value = .ok values
  boundsRead : ∀ n field value, Occurs tokens n (.date field value) →
    ∃ bound, Bound.Writes value bound
  connective : d.connective = (connectives tokens).getLast?
  text : d.text = freeTexts tokens

/-- A draft whose conditions stay as they are holds what the tokens say with one more, which is
    neither a filter nor a date. -/
private theorem Draft.Holds.of_same {tokens : List Token} {d d' : Draft} {token : Token}
    (h : d.Holds tokens) (noFilter : ∀ field value, Lexeme.ofToken token ≠ .filter field value)
    (noDate : ∀ field value, Lexeme.ofToken token ≠ .date field value)
    (pending : d'.pending = pendingAfter (trailingNots (tokens ++ [token])))
    (filters : d'.filters = d.filters) (bounds : d'.bounds = d.bounds)
    (connective : d'.connective = (connectives (tokens ++ [token])).getLast?)
    (text : d'.text = freeTexts (tokens ++ [token])) : d'.Holds (tokens ++ [token]) where
  pending := pending
  filters := by rw [filters, filterWritten_concat_of_ne noFilter]; exact h.filters
  bounds := by rw [bounds, boundWritten_concat_of_ne noDate]; exact h.bounds
  filtersRead := by
    intro n field value stands
    rcases occurs_concat.mp stands with before | ⟨_, is⟩
    · exact h.filtersRead n field value before
    · exact absurd is (noFilter field value)
  boundsRead := by
    intro n field value stands
    rcases occurs_concat.mp stands with before | ⟨_, is⟩
    · exact h.boundsRead n field value before
    · exact absurd is (noDate field value)
  connective := connective
  text := text

section
variable {tokens : List Token} {d d' : Draft} {token : Token}

/-- The pending `NOT`s of a draft count for one when they are odd. -/
private theorem Draft.Holds.parity (h : d.Holds tokens) :
    d.pending.getD false = decide (trailingNots tokens % 2 = 1) := by
  rw [h.pending, getD_pendingAfter]

private theorem Draft.Holds.concat_filter (h : d.Holds tokens) {field : FilterField} {value : List Char}
    {values : List String} (is : Lexeme.ofToken token = .filter field value)
    (agrees : conflicts field (d.pending.getD false) d.filters = false)
    (reads : filterValues field value = .ok values) :
    Draft.Holds (tokens ++ [token]) { d with
      filters := addCondition (List.foldl addNew) field (d.pending.getD false) values d.filters
      pending := none } where
  pending := by simp [trailingNots_concat, is, pendingAfter]
  filters := by
    rw [h.parity] at agrees ⊢
    refine (h.filters.add (fun _ _ _ => mem_foldl_addNew) values agrees).congr ?_
    intro k f vs
    rw [filterWritten_concat]
    refine or_congr_right ⟨?_, ?_⟩
    · rintro ⟨rfl, rfl, rfl⟩
      exact ⟨value, rfl, is, reads⟩
    · rintro ⟨v, rfl, same, other⟩
      cases is.symm.trans same
      cases reads.symm.trans other
      exact ⟨rfl, rfl, rfl⟩
  bounds := by
    rw [boundWritten_concat_of_ne (by simp [is])]
    exact h.bounds
  filtersRead := by
    intro n f v stands
    rcases occurs_concat.mp stands with before | ⟨_, same⟩
    · exact h.filtersRead n f v before
    · cases is.symm.trans same
      exact ⟨values, reads⟩
  boundsRead := by
    intro n f v stands
    rcases occurs_concat.mp stands with before | ⟨_, same⟩
    · exact h.boundsRead n f v before
    · cases is.symm.trans same
  connective := by simp [connectives, is, h.connective]
  text := by simp [freeTexts, is, h.text]

private theorem Draft.Holds.concat_date (h : d.Holds tokens) {field : DateField} {value : List Char}
    {bound : Bound} (is : Lexeme.ofToken token = .date field value)
    (agrees : conflicts field (d.pending.getD false) d.bounds = false)
    (reads : Bound.read (String.ofList value) (String.ofList token) = .ok bound) :
    Draft.Holds (tokens ++ [token]) { d with
      bounds := addCondition (· ++ ·) field (d.pending.getD false) [bound] d.bounds
      pending := none } where
  pending := by simp [trailingNots_concat, is, pendingAfter]
  filters := by
    rw [filterWritten_concat_of_ne (by simp [is])]
    exact h.filters
  bounds := by
    rw [h.parity] at agrees ⊢
    refine (h.bounds.add (fun _ _ _ => List.mem_append) [bound] agrees).congr ?_
    intro k f bs
    rw [boundWritten_concat]
    refine or_congr_right ⟨?_, ?_⟩
    · rintro ⟨rfl, rfl, rfl⟩
      exact ⟨value, bound, rfl, is, ⟨_, reads⟩, rfl⟩
    · rintro ⟨v, b, rfl, same, other, rfl⟩
      cases is.symm.trans same
      cases Bound.Writes.unique ⟨_, reads⟩ other
      exact ⟨rfl, rfl, rfl⟩
  filtersRead := by
    intro n f v stands
    rcases occurs_concat.mp stands with before | ⟨_, same⟩
    · exact h.filtersRead n f v before
    · cases is.symm.trans same
  boundsRead := by
    intro n f v stands
    rcases occurs_concat.mp stands with before | ⟨_, same⟩
    · exact h.boundsRead n f v before
    · cases is.symm.trans same
      exact ⟨bound, _, reads⟩
  connective := by simp [connectives, is, h.connective]
  text := by simp [freeTexts, is, h.text]

theorem Draft.Holds.concat (h : d.Holds tokens) (reads : d.Reads token d') :
    d'.Holds (tokens ++ [token]) := by
  cases reads with
  | not is =>
    refine h.of_same (by simp [is]) (by simp [is]) ?_ rfl rfl ?_ ?_
    · simp only [trailingNots_concat, is, if_true, pendingAfter_succ, h.pending]
    · simp [connectives, is, h.connective]
    · simp [freeTexts, is, h.text]
  | connective is free =>
    refine h.of_same (by simp [is]) (by simp [is]) ?_ rfl rfl ?_ ?_
    · simp [trailingNots_concat, is, free, pendingAfter]
    · simp [connectives, is]
    · simp [freeTexts, is, h.text]
  | sort is free reads =>
    refine h.of_same (by simp [is]) (by simp [is]) ?_ rfl rfl ?_ ?_
    · simp [trailingNots_concat, is, free, pendingAfter]
    · simp [connectives, is, h.connective]
    · simp [freeTexts, is, h.text]
  | limit is free reads =>
    refine h.of_same (by simp [is]) (by simp [is]) ?_ rfl rfl ?_ ?_
    · simp [trailingNots_concat, is, free, pendingAfter]
    · simp [connectives, is, h.connective]
    · simp [freeTexts, is, h.text]
  | filter is agrees reads => exact h.concat_filter is agrees reads
  | date is agrees reads => exact h.concat_date is agrees reads
  | @text value is free =>
    refine h.of_same (by simp [is]) (by simp [is]) ?_ rfl rfl ?_ ?_
    · simp [trailingNots_concat, is, free, pendingAfter]
    · simp [connectives, is, h.connective]
    · cases value <;> simp [freeTexts, is, h.text]

end

/-- A draft that was read holds what its tokens say. -/
theorem readTokens_holds {tokens : List Token} {d : Draft} (read : readTokens tokens = .ok d) :
    d.Holds tokens := by
  refine readTokens_induction (motive := fun tokens d => d.Holds tokens) ?_ ?_ read
  · have nowhere : ∀ n lexeme, ¬Occurs [] n lexeme := by
      rintro n lexeme ⟨before, token, after, split, _⟩
      simp at split
    have unfiltered : ∀ n field values, ¬FilterWritten [] n field values :=
      fun n field values ⟨_, stands, _⟩ => nowhere n _ stands
    have unbounded : ∀ n field bounds, ¬BoundWritten [] n field bounds :=
      fun n field bounds ⟨_, _, stands, _⟩ => nowhere n _ stands
    exact {
      pending := rfl
      filters := ⟨by simp, by simp, by simp, by simp,
        fun n field vs there => absurd there (unfiltered n field vs)⟩
      bounds := ⟨by simp, by simp, by simp, by simp,
        fun n field vs there => absurd there (unbounded n field vs)⟩
      filtersRead := fun n field value there => absurd there (nowhere n _)
      boundsRead := fun n field value there => absurd there (nowhere n _)
      connective := rfl
      text := rfl }
  · exact fun tokens d token d' h reads => h.concat reads

end IssueTracker
