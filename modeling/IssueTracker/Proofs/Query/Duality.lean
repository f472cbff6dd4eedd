import IssueTracker.Proofs.Query.Limit
import IssueTracker.Proofs.Query.Ordering

/-!
# Dual queries

The dual of a query takes the other connective and turns each condition round.  Without free text, and
with at least one condition, it is satisfied by the issues that do not satisfy the query
(`Query.accepts_dual`).  So the two of them divide every list of issues (`Query.execute_dual`).
-/

namespace IssueTracker

/-- The other connective. -/
def Connective.dual : Connective → Connective
  | .and => .or
  | .or => .and

/-- A condition, negated when it is plain and plain when it is negated. -/
def Condition.inverted {φ ν : Type} (c : Condition φ ν) : Condition φ ν := { c with negated := !c.negated }

namespace Query

/-- The query with the other connective and all conditions turned round. -/
def dual (q : Query) : Query :=
  { q with
    connective := q.connective.dual
    filters := q.filters.map Condition.inverted
    bounds := q.bounds.map Condition.inverted }

/-! ## Outcomes -/

section
variable {q : Query} {i : Issue} {now : Moment}

theorem signed_not (negated result : Bool) : signed (!negated) result = !signed negated result := by
  cases negated <;> cases result <;> rfl

/-- Inverted conditions have the inverted outcomes, or fail alike. -/
theorem mapM_inverted {φ ν : Type} (outcome : Condition φ ν → Except MatchError Bool)
    (each : ∀ c, outcome c.inverted = (outcome c).map (!·)) (cs : List (Condition φ ν)) :
    (cs.map Condition.inverted).mapM outcome = (cs.mapM outcome).map (List.map (!·)) := by
  induction cs with
  | nil => rfl
  | cons c cs ih =>
    rw [List.map_cons, List.mapM_cons, List.mapM_cons, each, ih]
    cases outcome c with
    | error e => rfl
    | ok result => cases cs.mapM outcome <;> rfl

theorem filterOutcomes_inverted (cs : List (Condition FilterField String)) :
    filterOutcomes i (cs.map Condition.inverted) = (filterOutcomes i cs).map (List.map (!·)) := by
  refine mapM_inverted _ (fun c => ?_) cs
  simp only [Condition.inverted, signed_not]
  cases i.hasValue c.field c.values <;> rfl

theorem boundOutcomes_inverted (cs : List (Condition DateField Bound)) :
    boundOutcomes i now (cs.map Condition.inverted) = (boundOutcomes i now cs).map (List.map (!·)) := by
  refine mapM_inverted _ (fun c => ?_) cs
  simp only [Condition.inverted, signed_not]
  cases i.time c.field with
  | error e => rfl
  | ok time =>
    simp only [bind, Except.bind]
    cases Bound.allHold time now c.values <;> rfl

/-- Without free text the outcomes of the dual are the inverted ones. -/
theorem outcomes_dual (wordless : q.text = "") (i : Issue) (now : Moment) :
    q.dual.outcomes i now = (q.outcomes i now).map (List.map (!·)) := by
  simp only [outcomes, dual, filterOutcomes_inverted, boundOutcomes_inverted, wordless, if_true]
  cases filterOutcomes i q.filters with
  | error e => rfl
  | ok filters =>
    cases boundOutcomes i now q.bounds with
    | error e => rfl
    | ok bounds => simp [Except.map, bind, Except.bind, pure, Except.pure]

/-- A query has as many outcomes as conditions, and one more when it has free text. -/
theorem length_outcomes {results : List Bool} (run : q.outcomes i now = .ok results) :
    q.filters.length + q.bounds.length ≤ results.length := by
  obtain ⟨filters, runF, run⟩ := bind_eq_ok.mp run
  obtain ⟨bounds, runB, run⟩ := bind_eq_ok.mp run
  cases run
  have lengthF := (mapM_eq_ok.mp runF).length_eq
  have lengthB := (mapM_eq_ok.mp runB).length_eq
  simp only [List.length_append]
  omega

/-- The law of De Morgan: it needs an outcome, since without any both connectives are satisfied. -/
theorem combine_dual (connective : Connective) {results : List Bool} (some : results ≠ []) :
    combine connective.dual (results.map (!·)) = !combine connective results := by
  cases results with
  | nil => exact absurd rfl some
  | cons result results =>
    cases connective with
    | and => simp [combine, Connective.dual, List.not_all_eq_any_not]
    | or => simp [combine, Connective.dual, List.not_any_eq_all_not]

/-- The dual is satisfied where the query is not, and fails where it fails. -/
theorem accepts_dual (wordless : q.text = "") (conditions : q.filters ≠ [] ∨ q.bounds ≠ []) (i : Issue)
    (now : Moment) : q.dual.accepts i now = (q.accepts i now).map (!·) := by
  rw [accepts, accepts, outcomes_dual wordless]
  cases run : q.outcomes i now with
  | error e => rfl
  | ok results =>
    have some : results ≠ [] := by
      have length := length_outcomes run
      rcases conditions with filters | bounds
      · have := List.length_pos_iff.mpr filters
        exact List.length_pos_iff.mp (by omega)
      · have := List.length_pos_iff.mpr bounds
        exact List.length_pos_iff.mp (by omega)
    exact congrArg Except.ok (combine_dual q.connective some)

end

end Query

/-! ## Ordering a part of the issues -/

section
variable {order : SortOrder} {issues : List Issue}

theorem known_of_sortIssues {sorted : List Issue} (sorts : sortIssues issues order = .ok sorted) :
    order.key ∈ SortKey.all := by
  rw [sortIssues] at sorts
  cases key : order.key with
  | other name =>
    rw [key] at sorts
    cases sorts
  | _ => decide

/-- Issues are put in order by a key of the query language unless times with and without an offset are
    among the values. -/
theorem exists_sortIssues_iff (known : order.key ∈ SortKey.all) :
    (∃ sorted, sortIssues issues order = .ok sorted) ↔
      mixesOffsets ((sortById issues).filterMap order.key.valueOf) = false := by
  rw [sortIssues]
  split
  · rename_i name key
    simp [key, SortKey.all] at known
  · rw [mapM_value? known]
    have values : ((List.map (fun i => (order.key.valueOf i, i)) (sortById issues)).filterMap
        fun pair => pair.1.map (·, pair.2)).map Prod.fst = (sortById issues).filterMap order.key.valueOf := by
      rw [List.filterMap_map, List.map_filterMap]
      exact List.filterMap_congr fun i _ => by simp [Function.comp_def]
    simp only [bind, Except.bind, values]
    cases mixesOffsets ((sortById issues).filterMap order.key.valueOf) <;> simp

/-- Where both kinds of times are not among some values, they are not among a part of them. -/
theorem mixesOffsets_of_subset {part values : List SortValue} (subset : part ⊆ values)
    (uniform : mixesOffsets values = false) : mixesOffsets part = false := by
  simp only [mixesOffsets, Bool.and_eq_false_iff, List.any_eq_false] at uniform ⊢
  exact uniform.imp (fun none v member => none v (subset member)) fun none v member =>
    none v (subset member)

/-- Where all issues can be put in the order of a query, so can a part of them. -/
theorem Query.arrange_filter {q : Query} {arranged : List Issue} (arranges : q.arrange issues = .ok arranged)
    (p : Issue → Bool) : ∃ part, q.arrange (issues.filter p) = .ok part := by
  rw [arrange] at arranges ⊢
  cases sort : q.sort with
  | none => exact ⟨_, rfl⟩
  | some order =>
    simp only [sort] at arranges ⊢
    have known := known_of_sortIssues arranges
    have uniform := (exists_sortIssues_iff known).mp ⟨arranged, arranges⟩
    refine (exists_sortIssues_iff known).mpr (mixesOffsets_of_subset (fun v member => ?_) uniform)
    obtain ⟨i, inside, is⟩ := List.mem_filterMap.mp member
    have isIssue : i ∈ issues := (List.mem_filter.mp ((perm_sortById _).mem_iff.mp inside)).1
    exact List.mem_filterMap.mpr ⟨i, (perm_sortById _).mem_iff.mpr isIssue, is⟩

end

/-! ## Running -/

/-- Two results divide issues: each issue is in one of them only, none is lost or comes twice, and the
    totals add up. -/
structure SearchResult.Divide (found others : SearchResult) (issues : List Issue) : Prop where
  perm : (found.issues ++ others.issues).Perm issues
  apart : ∀ i ∈ found.issues, i ∉ others.issues
  totals : found.total + others.total = issues.length

namespace Query
variable {q : Query} {issues : List Issue} {now : Moment}

/-- A query without a limit answers all issues that satisfy it. -/
theorem execute_unlimited {r : SearchResult} (unlimited : q.limit.getD 0 = 0)
    (run : q.execute issues now = .ok r) :
    r.issues.Perm (issues.filter fun i => q.accepts i now = .ok true) ∧ r.total = r.issues.length := by
  obtain ⟨selected, arranged, selects, arranges, rfl⟩ := execute_eq_ok.mp run
  have whole : cutOff q.limit arranged = arranged := by
    cases limit : q.limit with
    | none => rfl
    | some n =>
      have zero : n = 0 := by simpa [limit] using unlimited
      simp [cutOff, zero]
  have perm := perm_of_arrange arranges
  simp only [whole]
  exact ⟨of_select_eq_ok selects ▸ perm, perm.length_eq.symm⟩

/-- Where a query runs, it can be tried on every issue. -/
theorem exists_accepts_of_select {selected : List Issue} (run : q.select now issues = .ok selected) :
    ∀ i ∈ issues, ∃ accepted, q.accepts i now = .ok accepted := by
  induction issues generalizing selected with
  | nil => simp
  | cons i issues ih =>
    obtain ⟨accepted, first, run⟩ := bind_eq_ok.mp run
    obtain ⟨others, rest, _⟩ := bind_eq_ok.mp run
    exact List.forall_mem_cons.mpr ⟨⟨accepted, first⟩, ih rest⟩

/-- A query that can be tried on every issue runs, where they can be put in its order. -/
theorem exists_execute {arranged : List Issue}
    (each : ∀ i ∈ issues, ∃ accepted, q.accepts i now = .ok accepted)
    (arranges : q.arrange issues = .ok arranged) : ∃ r, q.execute issues now = .ok r := by
  have selects : q.select now issues = .ok (issues.filter fun i => q.accepts i now = .ok true) := by
    refine select_eq_ok fun i member => ?_
    obtain ⟨accepted, run⟩ := each i member
    cases accepted <;> simp [run]
  obtain ⟨part, arranges⟩ := arrange_filter arranges fun i => q.accepts i now = .ok true
  exact ⟨_, execute_eq_ok.mpr ⟨_, part, selects, arranges, rfl⟩⟩

/-- The dual of a query without free text is satisfied by the issues that do not satisfy the query, and fails
    where it fails.  Without a limit the two divide all issues on which they run; and they run on all on
    which the query can be tried and that can be put in its order. -/
theorem execute_dual (wordless : q.text = "") (conditions : q.filters ≠ [] ∨ q.bounds ≠ []) :
    (∀ i now, q.dual.accepts i now = (q.accepts i now).map (!·)) ∧
      ∀ issues now, q.limit.getD 0 = 0 →
        (∀ found others, q.execute issues now = .ok found → q.dual.execute issues now = .ok others →
          found.Divide others issues) ∧
        ((∀ i ∈ issues, ∃ accepted, q.accepts i now = .ok accepted) →
          (∃ arranged, q.arrange issues = .ok arranged) →
            (∃ found, q.execute issues now = .ok found) ∧
              ∃ others, q.dual.execute issues now = .ok others) := by
  have inverted := q.accepts_dual wordless conditions
  refine ⟨inverted, fun issues now unlimited => ⟨fun found others runs runsDual => ?_, ?_⟩⟩
  · obtain ⟨perm, total⟩ := execute_unlimited unlimited runs
    obtain ⟨permDual, totalDual⟩ := execute_unlimited (q := q.dual) unlimited runsDual
    obtain ⟨_, _, selects, _⟩ := execute_eq_ok.mp runs
    have complement : (issues.filter fun i => q.dual.accepts i now = .ok true) =
        issues.filter fun i => !(q.accepts i now = .ok true) := by
      refine List.filter_congr fun i member => ?_
      obtain ⟨accepted, run⟩ := exists_accepts_of_select selects i member
      rw [inverted, run]
      cases accepted <;> simp [Except.map]
    rw [complement] at permDual
    have parts := List.filter_append_perm (fun i => decide (q.accepts i now = .ok true)) issues
    have whole := (perm.append permDual).trans parts
    refine ⟨whole, fun i member other => ?_, ?_⟩
    · have satisfied := (List.mem_filter.mp (perm.mem_iff.mp member)).2
      have unsatisfied := (List.mem_filter.mp (permDual.mem_iff.mp other)).2
      rw [satisfied] at unsatisfied
      cases unsatisfied
    · rw [total, totalDual, ← List.length_append, whole.length_eq]
  · rintro each ⟨arranged, arranges⟩
    refine ⟨exists_execute each arranges, exists_execute (q := q.dual) (fun i member => ?_) arranges⟩
    obtain ⟨accepted, run⟩ := each i member
    exact ⟨!accepted, by rw [inverted, run]; rfl⟩

end Query

private def dated : Issue :=
  { title := some "Crash", type := some "bug", labels := .ofNames ["a"], createdAt := some .earliest }

private def undated : Issue := { title := some "Menu", type := some "Task" }

/-- A bug with a label and a creation time and a task without them are divided by a query with two types
    that are ruled out, two labels and a range of days, joined by `OR`, and its dual. -/
theorem execute_dual_range :
    ∃ q, parseQuery "NOT type:bug NOT type:task label:a,b created:>=0001-01-01 created:<9999-01-01 OR" = .ok q ∧
      q.text = "" ∧ (q.filters ≠ [] ∨ q.bounds ≠ []) ∧ q.limit.getD 0 = 0 ∧
      ∃ found others, q.execute [dated, undated] .earliest = .ok found ∧
        q.dual.execute [dated, undated] .earliest = .ok others ∧ found.Divide others [dated, undated] := by
  obtain ⟨q, parsed, wordless, conditions, unlimited, unsorted, each⟩ :
      ∃ q, parseQuery "NOT type:bug NOT type:task label:a,b created:>=0001-01-01 created:<9999-01-01 OR" = .ok q ∧
        q.text = "" ∧ (q.filters ≠ [] ∨ q.bounds ≠ []) ∧ q.limit.getD 0 = 0 ∧ q.sort = none ∧
        ∀ i ∈ [dated, undated], ∃ accepted, q.accepts i .earliest = .ok accepted :=
    ⟨_, rfl, rfl, by decide, rfl, rfl, List.forall_mem_cons.mpr ⟨⟨true, rfl⟩,
      List.forall_mem_cons.mpr ⟨⟨false, rfl⟩, by simp⟩⟩⟩
  obtain ⟨divides, runs⟩ := (Query.execute_dual wordless conditions).2 [dated, undated] .earliest unlimited
  have ordered : q.arrange [dated, undated] = .ok (sortById [dated, undated]) := by
    rw [Query.arrange, unsorted]
  obtain ⟨⟨found, run⟩, others, runDual⟩ := runs each ⟨_, ordered⟩
  exact ⟨q, parsed, wordless, conditions, unlimited, found, others, run, runDual, divides _ _ run runDual⟩

end IssueTracker
