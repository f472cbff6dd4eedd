import IssueTracker.Proofs.Query.Meaning
import IssueTracker.Proofs.Query.Writing

/-!
# Queries are run without failing

A query that was parsed is tried on every issue, and the issues that satisfy it are put in order.  The
one thing that can go wrong is an age of more digits than a numeral may have: its bound fails for an
issue that has the time and satisfies the bounds before it (`execute_parseQuery`).
-/

namespace IssueTracker

/-! ## Outcomes that fail for one reason -/

/-- An outcome is the complaint about an age of too many digits where something is the case, and a
    value everywhere else. -/
def FailsIf {α : Type} (outcome : Except MatchError α) (stopped : Prop) : Prop :=
  (¬stopped ∧ ∃ a, outcome = .ok a) ∨
    (stopped ∧ ∃ n, Text.numeralLimit < n ∧ outcome = .error (.longAge ⟨n⟩))

namespace FailsIf

variable {α β : Type} {outcome : Except MatchError α} {P Q : Prop}

theorem ok (a : α) : FailsIf (.ok a) False := Or.inl ⟨id, a, rfl⟩

theorem of_eq_ok {a : α} (same : outcome = .ok a) : FailsIf outcome False := same ▸ ok a

theorem congr (h : FailsIf outcome P) (same : P ↔ Q) : FailsIf outcome Q := propext same ▸ h

theorem exists_ok_iff (h : FailsIf outcome P) : (∃ a, outcome = .ok a) ↔ ¬P := by
  rcases h with ⟨fine, value⟩ | ⟨stopped, n, _, rfl⟩
  · exact ⟨fun _ => fine, fun _ => value⟩
  · simp [stopped]

theorem error_eq (h : FailsIf outcome P) {e : MatchError} (fails : outcome = .error e) :
    ∃ n, Text.numeralLimit < n ∧ e = .longAge ⟨n⟩ := by
  rcases h with ⟨_, a, rfl⟩ | ⟨_, n, long, rfl⟩
  · cases fails
  · cases fails
    exact ⟨n, long, rfl⟩

/-- What follows fails for its own reason. -/
theorem bind {f : α → Except MatchError β} (first : FailsIf outcome P)
    (rest : ∀ a, outcome = .ok a → FailsIf (f a) Q) : FailsIf (outcome >>= f) (P ∨ Q) := by
  rcases first with ⟨fine, a, rfl⟩ | ⟨stopped, n, long, rfl⟩
  · exact (rest a rfl).congr (by simp [fine])
  · exact Or.inr ⟨Or.inl stopped, n, long, rfl⟩

/-- What follows does not fail. -/
theorem bind_ok {f : α → Except MatchError β} (first : FailsIf outcome P)
    (rest : ∀ a, outcome = .ok a → FailsIf (f a) False) : FailsIf (outcome >>= f) P :=
  (first.bind rest).congr (or_false P).to_iff

/-- A list fails where one of its members does. -/
theorem mapM {f : β → Except MatchError α} {R : β → Prop} {xs : List β}
    (each : ∀ x ∈ xs, FailsIf (f x) (R x)) : FailsIf (xs.mapM f) (∃ x ∈ xs, R x) := by
  induction xs with
  | nil => exact (ok []).congr (by simp)
  | cons x xs ih =>
    have first := each x List.mem_cons_self
    have others := ih fun y member => each y (List.mem_cons_of_mem _ member)
    rw [List.mapM_cons]
    exact (first.bind fun _ _ => others.bind_ok fun _ _ => ok _).congr (by simp)

end FailsIf

/-! ## Bounds -/

namespace Bound

/-- A bound on an age of more digits than a numeral may have. -/
def IsLong (bound : Bound) : Prop :=
  ∃ token digits unit, bound.target = .age token ∧ ageParts? token.toList = some (digits, unit) ∧
    Text.numeralLimit < digits.length

/-- The bounds on a time that are tried before the first one that does not hold reach a bound on a
    long age. -/
def ReachLongAge (time : Option Moment) (now : Moment) (bounds : List Bound) : Prop :=
  ∃ before bound after, bounds = before ++ bound :: after ∧ bound.IsLong ∧ time.isSome ∧
    ∀ earlier ∈ before, earlier.holds time now = .ok true

section
variable {bound : Bound} {now : Moment} {time : Option Moment}

theorem IsProper.isShort_of_not_isLong (proper : bound.IsProper) (notLong : ¬bound.IsLong) :
    bound.IsShort := by
  intro token target
  obtain ⟨⟨digits, unit⟩, parts⟩ := Option.isSome_iff_exists.mp (proper token target)
  refine ⟨digits, unit, parts, ?_⟩
  by_contra long
  exact notLong ⟨token, digits, unit, target, parts, Nat.lt_of_not_le long⟩

theorem IsShort.not_isLong (short : bound.IsShort) : ¬bound.IsLong := by
  rintro ⟨token, digits, unit, target, parts, long⟩
  obtain ⟨digits', unit', parts', few⟩ := short token target
  cases parts.symm.trans parts'
  omega

theorem boundary_eq_error (long : bound.IsLong) (now : Moment) :
    ∃ n, Text.numeralLimit < n ∧ bound.boundary now = .error (.longAge ⟨n⟩) := by
  obtain ⟨token, digits, unit, target, parts, long⟩ := long
  refine ⟨digits.length, long, ?_⟩
  simp [boundary, target, ageDays, parts, Text.readNumeral, long]

/-- A bound fails on a time that is there when its age is long. -/
theorem failsIf_holds (proper : bound.IsProper) (naive : now.isNaive)
    (plain : time.all Moment.isNaive) :
    FailsIf (bound.holds time now) (bound.IsLong ∧ time.isSome) := by
  by_cases long : bound.IsLong
  · cases time with
    | none => exact (FailsIf.ok false).congr (by simp)
    | some t =>
      obtain ⟨n, many, fails⟩ := boundary_eq_error long now
      refine Or.inr ⟨⟨long, rfl⟩, n, many, ?_⟩
      simp only [holds, fails]
      rfl
  · obtain ⟨result, run⟩ := holds_eq_ok (proper.isShort_of_not_isLong long) naive plain
    exact (FailsIf.of_eq_ok run).congr (by simp [long])

/-- A first bound that is not long is passed when it holds. -/
theorem reachLongAge_cons {bounds : List Bound} :
    ReachLongAge time now (bound :: bounds) ↔
      (bound.IsLong ∧ time.isSome) ∨
        (bound.holds time now = .ok true ∧ ReachLongAge time now bounds) := by
  constructor
  · rintro ⟨before, b, after, split, long, there, passed⟩
    cases before with
    | nil =>
      cases split
      exact Or.inl ⟨long, there⟩
    | cons first before =>
      cases split
      exact Or.inr ⟨passed _ List.mem_cons_self, before, b, after, rfl, long, there,
        fun earlier member => passed earlier (List.mem_cons_of_mem _ member)⟩
  · rintro (⟨long, there⟩ | ⟨holds, before, b, after, rfl, long, there, passed⟩)
    · exact ⟨[], bound, bounds, rfl, long, there, by simp⟩
    · exact ⟨bound :: before, b, after, rfl, long, there, by simpa [holds] using passed⟩

theorem failsIf_allHold {bounds : List Bound} (proper : ∀ b ∈ bounds, b.IsProper)
    (naive : now.isNaive) (plain : time.all Moment.isNaive) :
    FailsIf (allHold time now bounds) (ReachLongAge time now bounds) := by
  induction bounds with
  | nil => exact (FailsIf.ok true).congr (by simp [ReachLongAge])
  | cons b bounds ih =>
    have first := failsIf_holds (proper b List.mem_cons_self) naive plain
    have others := ih fun c member => proper c (List.mem_cons_of_mem _ member)
    refine (first.bind (Q := b.holds time now = .ok true ∧ ReachLongAge time now bounds) ?_).congr
      reachLongAge_cons.symm
    -- Behind a bound that does not hold nothing is tried, and so nothing can fail.
    intro result run
    cases result with
    | false => exact (FailsIf.ok false).congr (by simp [run])
    | true => exact others.congr (by simp [run])

end

end Bound

/-! ## Selecting -/

/-- An issue on which a query comes to a bound on a long age. -/
def Query.ReachesLongAge (q : Query) (i : Issue) (now : Moment) : Prop :=
  ∃ c ∈ q.bounds, Bound.ReachLongAge (i.time? c.field) now c.values

namespace Query.WellFormed

variable {q : Query} {i : Issue} {issues : List Issue} {now : Moment}

theorem failsIf_accepts (wellFormed : q.WellFormed) (searchable : i.isSearchable)
    (naive : now.isNaive) : FailsIf (q.accepts i now) (q.ReachesLongAge i now) := by
  have filters : FailsIf (filterOutcomes i q.filters) False := by
    refine (FailsIf.mapM (R := fun _ => False) fun c member => ?_).congr (by simp)
    obtain ⟨found, run, _⟩ := hasValue_eq_ok searchable (wellFormed.filters c member).known c.values
    exact (FailsIf.of_eq_ok run).bind_ok fun _ _ => .ok _
  have bounds : FailsIf (boundOutcomes i now q.bounds) (q.ReachesLongAge i now) := by
    refine FailsIf.mapM fun c member => ?_
    have proper := wellFormed.bounds c member
    have all := Bound.failsIf_allHold proper.allowed naive (time?_isNaive searchable c.field)
    simp only [time_eq_ok proper.known]
    exact all.bind_ok fun _ _ => .ok _
  have outcomes : FailsIf (q.outcomes i now) (q.ReachesLongAge i now) :=
    (filters.bind fun _ _ => bounds.bind_ok fun _ _ => .ok _).congr (by simp)
  exact outcomes.bind_ok fun _ _ => .ok _

theorem failsIf_select (wellFormed : q.WellFormed) (searchable : ∀ i ∈ issues, i.isSearchable)
    (naive : now.isNaive) :
    FailsIf (q.select now issues) (∃ i ∈ issues, q.ReachesLongAge i now) := by
  induction issues with
  | nil => exact (FailsIf.ok []).congr (by simp)
  | cons i issues ih =>
    have first := wellFormed.failsIf_accepts (searchable i List.mem_cons_self) naive
    have others := ih fun j member => searchable j (List.mem_cons_of_mem _ member)
    rw [select]
    exact (first.bind fun _ _ => others.bind_ok fun _ _ => .ok _).congr (by simp)

end Query.WellFormed

theorem mem_of_mem_select {q : Query} {now : Moment} {issues selected : List Issue}
    (run : q.select now issues = .ok selected) {i : Issue} (member : i ∈ selected) : i ∈ issues := by
  induction issues generalizing selected with
  | nil =>
    cases run
    simp at member
  | cons j issues ih =>
    obtain ⟨accepted, _, run⟩ := bind_eq_ok.mp run
    obtain ⟨others, rest, run⟩ := bind_eq_ok.mp run
    cases run
    cases accepted with
    | false => exact List.mem_cons_of_mem _ (ih rest member)
    | true =>
      rcases List.mem_cons.mp member with rfl | later
      · exact List.mem_cons_self
      · exact List.mem_cons_of_mem _ (ih rest later)

/-! ## Ordering -/

/-- A value that may be compared with others of its kind: a time has no offset. -/
def SortValue.IsComparable (value : SortValue) : Prop := ∀ t, value = .time t → t.isNaive

section
variable {key : SortKey} {i : Issue} {issues : List Issue}

theorem value?_eq_ok (known : key ∈ SortKey.all) (times : i.hasNaiveTimes) :
    ∃ value, key.value? i = .ok value ∧ ∀ v, value = some v → v.IsComparable := by
  have text (text : Option String) : ∀ v, SortValue.ofText text = some v → v.IsComparable := by
    rintro v same t rfl
    rw [SortValue.ofText] at same
    split at same <;> cases same
  have number (n : Option Int) : ∀ v, n.map SortValue.number = some v → v.IsComparable := by
    rintro v same t rfl
    simp at same
  have time (field : DateField) :
      ∀ v, (i.time? field).map SortValue.time = some v → v.IsComparable := by
    rintro v same t rfl
    obtain ⟨moment, there, is⟩ := Option.map_eq_some_iff.mp same
    cases is
    simpa [there] using Issue.time?_all_isNaive times field
  cases key with
  | id => exact ⟨_, rfl, number _⟩
  | title => exact ⟨_, rfl, text _⟩
  | type => exact ⟨_, rfl, text _⟩
  | status => exact ⟨_, rfl, number (some _)⟩
  | priority => exact ⟨_, rfl, number (some _)⟩
  | assignee => exact ⟨_, rfl, text _⟩
  | branch => exact ⟨_, rfl, text _⟩
  | created => exact ⟨_, rfl, time .created⟩
  | updated => exact ⟨_, rfl, time .updated⟩
  | closed => exact ⟨_, rfl, time .closed⟩
  | other name => simp [SortKey.all] at known

theorem mixesOffsets_eq_false {values : List SortValue} (comparable : ∀ v ∈ values, v.IsComparable) :
    mixesOffsets values = false := by
  rw [mixesOffsets, Bool.and_eq_false_iff]
  right
  rw [List.any_eq_false]
  intro v member
  cases v with
  | number | text => simp
  | time t => simp [comparable _ member t rfl]

/-- Issues are ordered without failing by every key of the query language. -/
theorem sortIssues_eq_ok {order : SortOrder} (known : order.key ∈ SortKey.all)
    (times : ∀ i ∈ issues, i.hasNaiveTimes) : ∃ sorted, sortIssues issues order = .ok sorted := by
  have each : ∀ i ∈ sortById issues, ∃ pair : Option SortValue × Issue,
      (do return (← order.key.value? i, i) : Except MatchError _) = .ok pair ∧
        ∀ v, pair.1 = some v → v.IsComparable := by
    intro i member
    have member : i ∈ issues := List.mem_mergeSort.mp member
    obtain ⟨value, run, comparable⟩ := value?_eq_ok known (times i member)
    exact ⟨(value, i), by rw [run]; rfl, comparable⟩
  obtain ⟨valued, run, related⟩ := exists_mapM_eq_ok each
  rw [sortIssues]
  split
  · rename_i name other
    simp [other, SortKey.all] at known
  · rw [run]
    refine ⟨_, if_neg ?_⟩
    rw [Bool.not_eq_true]
    refine mixesOffsets_eq_false fun v member => ?_
    obtain ⟨_, present, rfl⟩ := List.mem_map.mp member
    obtain ⟨pair, inside, same⟩ := List.mem_filterMap.mp present
    obtain ⟨_, _, comparable⟩ := exists_of_mem_right related inside
    obtain ⟨v, there, rfl⟩ := Option.map_eq_some_iff.mp same
    exact comparable v there

theorem Query.WellFormed.arrange_eq_ok {q : Query} (wellFormed : q.WellFormed)
    (searchable : ∀ i ∈ issues, i.isSearchable) : ∃ arranged, q.arrange issues = .ok arranged := by
  rw [Query.arrange]
  cases sort : q.sort with
  | none => exact ⟨_, rfl⟩
  | some order =>
    exact sortIssues_eq_ok (wellFormed.sort order sort) fun i member =>
      (Issue.isSearchable_iff.mp (searchable i member)).2

end

/-! ## Running -/

section
variable {q : Query} {issues : List Issue} {now : Moment}

/-- A well-formed query fails exactly when it comes to a long age on one of the issues. -/
theorem Query.WellFormed.failsIf_execute (wellFormed : q.WellFormed)
    (searchable : ∀ i ∈ issues, i.isSearchable) (naive : now.isNaive) :
    FailsIf (q.execute issues now) (∃ i ∈ issues, q.ReachesLongAge i now) := by
  refine (wellFormed.failsIf_select searchable naive).bind_ok fun selected run => ?_
  obtain ⟨arranged, arranges⟩ := wellFormed.arrange_eq_ok fun i member =>
    searchable i (mem_of_mem_select run member)
  exact (FailsIf.of_eq_ok arranges).bind_ok fun _ _ => .ok _

/-- The bounds of a query whose tokens write short ages only are short. -/
theorem isShort_of_parseQuery {raw : String} (parsed : parseQuery raw = .ok q)
    (short : hasShortAges (tokenize raw.toList)) : ∀ c ∈ q.bounds, ∀ b ∈ c.values, b.IsShort := by
  obtain ⟨d, read, _, rfl⟩ := parseQuery_eq_ok.mp parsed
  have h := readTokens_holds read
  intro c member b inside
  obtain ⟨n, _, ⟨value, b', stands, writes, rfl⟩, same⟩ := (h.bounds.values c member b).mp inside
  rw [List.mem_singleton.mp same]
  exact isShort_of_hasShortAges short stands writes

/-- So it comes to no long age. -/
theorem not_reachesLongAge {raw : String} (parsed : parseQuery raw = .ok q)
    (short : hasShortAges (tokenize raw.toList)) (i : Issue) : ¬q.ReachesLongAge i now := by
  rintro ⟨c, member, before, bound, after, split, long, _⟩
  have inside : bound ∈ c.values := by simp [split]
  exact (isShort_of_parseQuery parsed short c member bound inside).not_isLong long

/-- A parsed query is run on searchable issues without failing, unless it comes on one of them to
    an age of more digits than a numeral may have.  It never does when no token writes such an age. -/
theorem execute_parseQuery {raw : String} (parsed : parseQuery raw = .ok q)
    (searchable : ∀ i ∈ issues, i.isSearchable) (naive : now.isNaive) :
    ((∃ r, q.execute issues now = .ok r) ↔ ∀ i ∈ issues, ¬q.ReachesLongAge i now) ∧
      (∀ e, q.execute issues now = .error e → ∃ n, Text.numeralLimit < n ∧ e = .longAge ⟨n⟩) ∧
      (hasShortAges (tokenize raw.toList) → ∃ r, q.execute issues now = .ok r) := by
  have outcome := (wellFormed_of_parseQuery parsed).failsIf_execute searchable naive
  have runs : (∃ r, q.execute issues now = .ok r) ↔ ∀ i ∈ issues, ¬q.ReachesLongAge i now := by
    simpa using outcome.exists_ok_iff
  exact ⟨runs, fun e fails => outcome.error_eq fails, fun short =>
    runs.mpr fun i _ => not_reachesLongAge parsed short i⟩

end

/-- Two issues are tried on an age, put in order and cut off. -/
theorem execute_parseQuery_latest :
    ∃ q, parseQuery "NOT updated:>=2w sort:created:desc limit:1" = .ok q ∧
      (∀ i ∈ [({ title := some "Crash", createdAt := some .earliest } : Issue),
        { title := none, updatedAt := some .earliest, labels := .ofNames ["ui"] }], i.isSearchable) ∧
      Moment.earliest.isNaive ∧
      ∃ r, q.execute [{ title := some "Crash", createdAt := some .earliest },
        { title := none, updatedAt := some .earliest, labels := .ofNames ["ui"] }] .earliest =
          .ok r := by
  obtain ⟨q, parsed⟩ : ∃ q, parseQuery "NOT updated:>=2w sort:created:desc limit:1" = .ok q :=
    ⟨_, rfl⟩
  have runs := execute_parseQuery parsed
    (show ∀ i ∈ [({ title := some "Crash", createdAt := some .earliest } : Issue),
      { title := none, updatedAt := some .earliest, labels := .ofNames ["ui"] }], i.isSearchable by
        decide) (show Moment.earliest.isNaive by decide)
  exact ⟨q, parsed, by decide, by decide, runs.2.2 (by decide +kernel)⟩

private theorem parseQuery_age {digits : List Char} (filled : digits ≠ [])
    (decimal : ∀ c ∈ digits, Text.isDecimal c = true) :
    parseQuery (String.ofList ("created:\"<".toList ++ digits ++ "d\"".toList)) =
      .ok { bounds := [⟨.created, [⟨.lt, .age (String.ofList (digits ++ ['d']))⟩], false⟩] } := by
  generalize isBound : (⟨.lt, .age (String.ofList (digits ++ ['d']))⟩ : Bound) = bound
  have chars : bound.chars = '<' :: (digits ++ ['d']) := by
    simp [← isBound, Bound.chars, Comparison.symbol]
  have proper : bound.IsProper := by
    rw [← isBound]
    rintro token ⟨rfl⟩
    rw [String.toList_ofList, ageParts?_append filled decimal rfl]
    rfl
  have wellFormed : Query.WellFormed { bounds := [⟨.created, [bound], false⟩] } := {
    textUnquoted := by simp
    textTrimmed := show Text.strip "" = "" by decide
    filterFields := by simp
    filters := by simp
    boundFields := by simp
    bounds := by
      intro c member
      rw [List.mem_singleton.mp member]
      exact ⟨by simp [DateField.all], by simp, by simpa using proper⟩
    sort := by simp
    limit := by simp }
  rw [← wellFormed.parseQuery_write]
  congr 2
  simp [Query.tokens, Condition.timeTokens, signedToken, quotedToken, chars, DateField.name]

private def january : Moment := .atMidnight ⟨2024, 1, 1, by decide⟩

/-- An age of 4301 digits is parsed, and the query fails on an issue that has the time. -/
theorem execute_longAge :
    ∃ q, parseQuery (String.ofList ("created:\"<".toList ++ List.replicate 4301 '9' ++
        "d\"".toList)) = .ok q ∧
      ({ title := some "t", createdAt := some january, id := some 1 } : Issue).isSearchable ∧
      january.isNaive ∧
      ¬∃ r, q.execute [{ title := some "t", createdAt := some january, id := some 1 }] january =
        .ok r := by
  have filled : List.replicate 4301 '9' ≠ [] := List.cons_ne_nil _ _
  have decimal : ∀ c ∈ List.replicate 4301 '9', Text.isDecimal c = true := by
    intro c member
    rw [List.eq_of_mem_replicate member]
    decide
  have long : Text.numeralLimit < (List.replicate 4301 '9').length := by
    rw [List.length_replicate]
    decide
  generalize List.replicate 4301 '9' = digits at filled decimal long
  have parsed := parseQuery_age filled decimal
  refine ⟨_, parsed, by decide, by decide, ?_⟩
  have outcome := (wellFormed_of_parseQuery parsed).failsIf_execute
    (show ∀ i ∈ [({ title := some "t", createdAt := some january, id := some 1 } : Issue)],
      i.isSearchable by decide) (show january.isNaive by decide)
  rw [outcome.exists_ok_iff, not_not]
  refine ⟨_, List.mem_singleton_self _, _, List.mem_singleton_self _, [], _, [], rfl, ?_, rfl, by simp⟩
  refine ⟨_, digits, .day, rfl, ?_, long⟩
  rw [String.toList_ofList, ageParts?_append filled decimal rfl]

end IssueTracker
