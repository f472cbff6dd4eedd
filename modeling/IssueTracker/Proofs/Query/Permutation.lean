import Mathlib.Data.List.Nodup
import IssueTracker.Proofs.Query.Execution

/-!
# Where the issues stand does not count

Whether an issue satisfies a query does not depend on the others, and issues whose ids are all different
can be ordered by id in one way only (`sortById_eq_of_perm`).  All other keys start from that order, so
a query answers the same for the same issues in any order (`execute_eq_of_perm`).
-/

namespace IssueTracker

/-! ## Ordering -/

section
variable {issues issues' : List Issue}

theorem pairwise_sortById (issues : List Issue) :
    (sortById issues).Pairwise fun a b => a.id.getD 0 ≤ b.id.getD 0 := by
  have sorted : (sortById issues).Pairwise fun a b => decide (a.id.getD 0 ≤ b.id.getD 0) = true :=
    List.pairwise_mergeSort (fun a b c => by simpa using Int.le_trans)
      (fun a b => by simpa using Int.le_total (a.id.getD 0) (b.id.getD 0)) issues
  simpa using sorted

theorem perm_sortById (issues : List Issue) : (sortById issues).Perm issues :=
  List.mergeSort_perm issues _

/-- Issues whose ids are there and all different are ordered by id in one way. -/
theorem sortById_eq_of_perm (perm : issues.Perm issues') (present : ∀ i ∈ issues, i.id.isSome)
    (distinct : (issues.map (·.id)).Nodup) : sortById issues = sortById issues' := by
  have same : (sortById issues).Perm (sortById issues') :=
    (perm_sortById issues).trans (perm.trans (perm_sortById issues').symm)
  refine same.eq_of_pairwise ?_ (pairwise_sortById issues) (pairwise_sortById issues')
  intro a b inA inB before after
  have memberA : a ∈ issues := (perm_sortById issues).mem_iff.mp inA
  have memberB : b ∈ issues := (perm_sortById issues).mem_iff.mp (same.mem_iff.mpr inB)
  obtain ⟨idA, isA⟩ := Option.isSome_iff_exists.mp (present a memberA)
  obtain ⟨idB, isB⟩ := Option.isSome_iff_exists.mp (present b memberB)
  refine List.inj_on_of_nodup_map distinct memberA memberB ?_
  rw [isA, isB] at before after ⊢
  exact congrArg some (Int.le_antisymm before after)

/-- Issues that ascend by id are in order. -/
theorem sortById_eq_self (ascending : issues.Pairwise fun a b => a.id.getD 0 ≤ b.id.getD 0) :
    sortById issues = issues :=
  List.mergeSort_of_pairwise (by simpa using ascending)

/-- Every order starts from that by id. -/
theorem Query.arrange_congr (q : Query) (same : sortById issues = sortById issues') :
    q.arrange issues = q.arrange issues' := by
  cases sort : q.sort with
  | none => simp only [arrange, sort, same]
  | some order => simp only [arrange, sort, sortIssues, same]

end

/-! ## Selecting -/

section
variable {q : Query} {now : Moment} {issues : List Issue}

/-- Where a query can be tried on every issue, those that satisfy it are selected. -/
theorem Query.select_eq_ok {accepted : Issue → Bool}
    (each : ∀ i ∈ issues, q.accepts i now = .ok (accepted i)) :
    q.select now issues = .ok (issues.filter accepted) := by
  induction issues with
  | nil => rfl
  | cons i issues ih =>
    have others := ih fun j member => each j (List.mem_cons_of_mem _ member)
    rw [select, each i List.mem_cons_self, others]
    cases is : accepted i <;> simp [is] <;> rfl

/-- Where a query cannot be tried on some issue, and for one reason only, that is the outcome. -/
theorem Query.select_eq_error {e : MatchError}
    (uniform : ∀ i ∈ issues, ∀ e', q.accepts i now = .error e' → e' = e)
    (fails : ∃ i ∈ issues, ∃ e', q.accepts i now = .error e') : q.select now issues = .error e := by
  induction issues with
  | nil => simp at fails
  | cons i issues ih =>
    rw [select]
    cases run : q.accepts i now with
    | error e' =>
      rw [uniform i List.mem_cons_self e' run]
      rfl
    | ok accepted =>
      have later : ∃ j ∈ issues, ∃ e', q.accepts j now = .error e' := by
        obtain ⟨j, member, e', failed⟩ := fails
        rcases List.mem_cons.mp member with rfl | member
        · cases run.symm.trans failed
        · exact ⟨j, member, e', failed⟩
      rw [ih (fun j member => uniform j (List.mem_cons_of_mem _ member)) later]
      rfl

end

/-! ## Trying a parsed query -/

section
variable {q : Query} {now : Moment} {i : Issue}

/-- A field of the query language cannot be compared only where labels are asked for and there is no
    list of them. -/
theorem hasValue_eq_error {field : FilterField} (known : field ∈ FilterField.all)
    {values : List String} {e : MatchError} (fails : i.hasValue field values = .error e) :
    e = .noLabelList := by
  cases field with
  | labels =>
    simp only [Issue.hasValue] at fails
    split at fails
    · split at fails
      · cases fails
      · cases fails
        rfl
    · cases fails
  | type | status | priority | assignee | branch => cases fails
  | other name => simp [FilterField.all] at known

/-- So it is with a query without long ages, on an issue whose times have no offset. -/
theorem Query.WellFormed.accepts_eq_error (wellFormed : q.WellFormed)
    (short : ∀ c ∈ q.bounds, ∀ b ∈ c.values, b.IsShort) (naive : now.isNaive)
    (times : i.hasNaiveTimes) {e : MatchError} (fails : q.accepts i now = .error e) :
    e = .noLabelList := by
  rcases bind_eq_error.mp fails with fails | ⟨_, _, fails⟩
  · rcases bind_eq_error.mp fails with filters | ⟨_, _, fails⟩
    · obtain ⟨c, member, failed⟩ := mapM_eq_error filters
      rcases bind_eq_error.mp failed with failed | ⟨_, _, failed⟩
      · exact hasValue_eq_error (wellFormed.filters c member).known failed
      · cases failed
    · rcases bind_eq_error.mp fails with bounds | ⟨_, _, fails⟩
      · obtain ⟨c, member, failed⟩ := mapM_eq_error bounds
        obtain ⟨all, holds, _⟩ := Bound.allHold_eq_ok fun b inside =>
          Bound.holds_eq_ok (short c member b inside) naive (Issue.time?_all_isNaive times c.field)
        rcases bind_eq_error.mp failed with failed | ⟨time, there, failed⟩
        · cases (time_eq_ok (wellFormed.bounds c member).known).symm.trans failed
        · cases (time_eq_ok (wellFormed.bounds c member).known).symm.trans there
          rcases bind_eq_error.mp failed with failed | ⟨_, _, failed⟩
          · cases holds.symm.trans failed
          · cases failed
      · cases fails
  · cases fails

end

/-! ## Running -/

section
variable {q : Query} {now : Moment} {issues issues' : List Issue}

/-- What is selected is the same, or the one reason why nothing is. -/
theorem Query.select_of_perm {e : MatchError}
    (uniform : ∀ i ∈ issues, ∀ e', q.accepts i now = .error e' → e' = e)
    (perm : issues.Perm issues') :
    (∃ selected selected', q.select now issues = .ok selected ∧ q.select now issues' = .ok selected' ∧
      selected.Perm selected' ∧ selected.Sublist issues) ∨
      (q.select now issues = .error e ∧ q.select now issues' = .error e) := by
  have uniform' : ∀ i ∈ issues', ∀ e', q.accepts i now = .error e' → e' = e :=
    fun i member => uniform i (perm.mem_iff.mpr member)
  by_cases fails : ∃ i ∈ issues, ∃ e', q.accepts i now = .error e'
  · obtain ⟨i, member, failed⟩ := fails
    exact Or.inr ⟨select_eq_error uniform ⟨i, member, failed⟩,
      select_eq_error uniform' ⟨i, perm.mem_iff.mp member, failed⟩⟩
  · obtain ⟨accepted, each⟩ : ∃ accepted : Issue → Bool,
        ∀ i ∈ issues, q.accepts i now = .ok (accepted i) := by
      refine ⟨fun i => (q.accepts i now).toOption.getD false, fun i member => ?_⟩
      cases run : q.accepts i now with
      | error e' => exact absurd ⟨i, member, e', run⟩ fails
      | ok accepted => simp [run, Except.toOption]
    exact Or.inl ⟨_, _, select_eq_ok each, select_eq_ok fun i member => each i (perm.mem_iff.mpr member),
      perm.filter accepted, List.filter_sublist⟩

/-- A parsed query without long ages answers the same for the same issues in any order, when their ids are
    there and all different and their times have no offset. -/
theorem execute_eq_of_perm {raw : String} (parsed : parseQuery raw = .ok q)
    (short : hasShortAges (tokenize raw.toList)) (naive : now.isNaive) (perm : issues.Perm issues')
    (present : ∀ i ∈ issues, i.id.isSome) (distinct : (issues.map (·.id)).Nodup)
    (times : ∀ i ∈ issues, i.hasNaiveTimes) :
    q.execute issues now = q.execute issues' now ∧
      ((∀ i ∈ issues, i.labels.isSome) → ∃ r, q.execute issues now = .ok r) := by
  have wellFormed := wellFormed_of_parseQuery parsed
  constructor
  · have uniform : ∀ i ∈ issues, ∀ e, q.accepts i now = .error e → e = .noLabelList :=
      fun i member e fails =>
        wellFormed.accepts_eq_error (isShort_of_parseQuery parsed short) naive (times i member) fails
    rw [Query.execute, Query.execute]
    rcases q.select_of_perm uniform perm with ⟨selected, selected', run, run', same, part⟩ | ⟨fails, fails'⟩
    · have order : sortById selected = sortById selected' :=
        sortById_eq_of_perm same (fun i member => present i (part.subset member))
          ((part.map _).nodup distinct)
      rw [run, run']
      simp only [bind, Except.bind, q.arrange_congr order, same.length_eq]
    · rw [fails, fails']
  · intro lists
    have searchable : ∀ i ∈ issues, i.isSearchable := fun i member =>
      Issue.isSearchable_iff.mpr ⟨lists i member, times i member⟩
    have outcome := wellFormed.failsIf_execute searchable naive
    exact outcome.exists_ok_iff.mpr fun ⟨i, _, reaches⟩ => not_reachesLongAge parsed short i reaches

end

private def crash : Issue := { title := some "Crash", type := some "bug", id := some 2 }

private def freeze : Issue := { title := some "Freeze", type := some "bug", id := some 1 }

/-- Of two bugs of one priority the limit leaves the same one, whichever stands first. -/
theorem execute_eq_of_perm_tied :
    ∃ q, parseQuery "type:bug updated:<4w OR sort:priority:desc limit:1" = .ok q ∧
      hasShortAges (tokenize "type:bug updated:<4w OR sort:priority:desc limit:1".toList) ∧
      Moment.earliest.isNaive ∧ [crash, freeze].Perm [freeze, crash] ∧
      (∀ i ∈ [crash, freeze], i.id.isSome) ∧ ([crash, freeze].map (·.id)).Nodup ∧
      (∀ i ∈ [crash, freeze], i.hasNaiveTimes) ∧ (∀ i ∈ [crash, freeze], i.labels.isSome) ∧
      q.execute [crash, freeze] .earliest = q.execute [freeze, crash] .earliest ∧
      ∃ r, q.execute [crash, freeze] .earliest = .ok r := by
  obtain ⟨q, parsed⟩ : ∃ q, parseQuery "type:bug updated:<4w OR sort:priority:desc limit:1" = .ok q :=
    ⟨_, rfl⟩
  have short : hasShortAges (tokenize "type:bug updated:<4w OR sort:priority:desc limit:1".toList) := by
    decide +kernel
  have naive : Moment.earliest.isNaive := by decide
  have swapped : [crash, freeze].Perm [freeze, crash] := List.Perm.swap freeze crash []
  have answers := execute_eq_of_perm parsed short naive swapped (by decide) (by decide) (by decide)
  exact ⟨q, parsed, short, naive, swapped, by decide, by decide, by decide, by decide, answers.1,
    answers.2 (by decide)⟩

end IssueTracker
