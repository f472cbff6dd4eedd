import IssueTracker.Search
import IssueTracker.Proofs.Query.Limit

/-!
# What a search answers

A search tries the query on the issues that are listed (`Search.run_eq_ok`).  The last limit in the
query, or else the default one, cuts off what the query answers without a limit (`Search.run_limit`).
-/

namespace IssueTracker.Search

variable {db : Database} {raw : String} {q : Query} {now : Moment}

theorem list_none_eq_ok {issues : List Issue} :
    db.list none = .ok issues ↔ ∃ s, db.issueStore = .ok s ∧ s.issues = .ok issues := by
  constructor
  · intro run
    obtain ⟨s, isReady, run⟩ := bind_eq_ok.mp run
    obtain ⟨_, reads, run⟩ := bind_eq_ok.mp run
    cases run
    exact ⟨s, isReady, reads⟩
  · rintro ⟨s, isReady, reads⟩
    exact bind_eq_ok.mpr ⟨s, isReady, bind_eq_ok.mpr ⟨issues, reads, rfl⟩⟩

/-- A query can be run when the issues can be listed and it runs on them, with the default limit where it has
    none. -/
theorem execute_eq_ok {defaultLimit : Int} {r : SearchResult} :
    execute db q now defaultLimit = .ok r ↔ ∃ issues, db.list none = .ok issues ∧
      (withDefaultLimit q defaultLimit).execute issues now = .ok r := by
  constructor
  · intro answers
    obtain ⟨s, isReady, answers⟩ := bind_eq_ok.mp answers
    obtain ⟨issues, reads, answers⟩ := bind_eq_ok.mp answers
    exact ⟨issues, list_none_eq_ok.mpr ⟨s, mapError_eq_ok.mp isReady, mapError_eq_ok.mp reads⟩,
      mapError_eq_ok.mp answers⟩
  · rintro ⟨issues, listed, answers⟩
    obtain ⟨s, isReady, reads⟩ := list_none_eq_ok.mp listed
    refine bind_eq_ok.mpr ⟨s, mapError_eq_ok.mpr isReady, ?_⟩
    exact bind_eq_ok.mpr ⟨issues, mapError_eq_ok.mpr reads, mapError_eq_ok.mpr answers⟩

/-- A search succeeds when the query can be read and run. -/
theorem run_eq_ok {defaultLimit : Int} {r : SearchResult} :
    run db raw now defaultLimit = .ok r ↔ ∃ q issues, parseQuery raw = .ok q ∧
      db.list none = .ok issues ∧ (withDefaultLimit q defaultLimit).execute issues now = .ok r := by
  rw [run, bind_eq_ok]
  simp only [mapError_eq_ok, execute_eq_ok, exists_and_left]

theorem withDefaultLimit_eq (q : Query) (defaultLimit : Int) :
    withDefaultLimit q defaultLimit = { q with limit := (withDefaultLimit q defaultLimit).limit } := by
  rw [withDefaultLimit]
  split <;> rfl

/-- A query with a limit runs as the one without cut off at it, and as it whatever the default. -/
theorem execute_withDefaultLimit {issues : List Issue} {defaultLimit : Int} {r : SearchResult} :
    (withDefaultLimit q defaultLimit).execute issues now = .ok r ↔
      ∃ selected arranged, q.select now issues = .ok selected ∧ q.arrange selected = .ok arranged ∧
        r = ⟨cutOff (withDefaultLimit q defaultLimit).limit arranged, selected.length⟩ := by
  rw [Query.execute_eq_ok, withDefaultLimit_eq, Query.select_withLimit]
  rfl

theorem cutOff_withDefaultLimit {limit : Option Nat} (isLimit : q.limit = limit.map Int.ofNat)
    (defaultLimit : Nat) (issues : List Issue) :
    cutOff (withDefaultLimit q defaultLimit).limit issues =
      if limit.getD defaultLimit = 0 then issues else issues.take (limit.getD defaultLimit) := by
  cases limit with
  | some limit =>
    have kept : withDefaultLimit q defaultLimit = q := by simp [withDefaultLimit, isLimit]
    rw [kept, isLimit]
    exact cutOff_natCast limit issues
  | none =>
    have absent : q.limit = none := isLimit
    by_cases zero : defaultLimit = 0
    · simp [withDefaultLimit, absent, zero, cutOff]
    · have replaced : (withDefaultLimit q defaultLimit).limit = some (defaultLimit : Int) := by
        simp [withDefaultLimit, absent, Nat.pos_of_ne_zero zero]
      rw [replaced]
      exact cutOff_natCast defaultLimit issues

/-- A query that runs on the issues runs with any default limit. -/
theorem exists_execute_eq_ok {issues : List Issue} (listed : db.list none = .ok issues)
    (answers : ∃ r, q.execute issues now = .ok r) (defaultLimit : Int) :
    ∃ r, execute db q now defaultLimit = .ok r := by
  obtain ⟨_, answers⟩ := answers
  obtain ⟨selected, arranged, selects, arranges, _⟩ := Query.execute_eq_ok.mp answers
  exact ⟨_, execute_eq_ok.mpr ⟨issues, listed,
    execute_withDefaultLimit.mpr ⟨selected, arranged, selects, arranges, rfl⟩⟩⟩

/-- A query with short ages that can be read is answered, where the issues can be searched. -/
theorem exists_run_eq_ok {issues : List Issue} (parsed : parseQuery raw = .ok q)
    (short : hasShortAges (tokenize raw.toList)) (naive : now.isNaive) (listed : db.list none = .ok issues)
    (searchable : ∀ i ∈ issues, i.isSearchable) (defaultLimit : Int) :
    ∃ r, run db raw now defaultLimit = .ok r := by
  have answers := (execute_parseQuery parsed searchable naive).2.2 short
  obtain ⟨r, answers⟩ := exists_execute_eq_ok listed answers defaultLimit
  exact ⟨r, bind_eq_ok.mpr ⟨q, mapError_eq_ok.mpr parsed, answers⟩⟩

/-- Without order and limit, issues that ascend by id are answered in their order. -/
theorem run_eq_filter {issues : List Issue} {accepted : Issue → Bool} {defaultLimit : Int}
    (parsed : parseQuery raw = .ok q) (unsorted : q.sort = none)
    (unlimited : (withDefaultLimit q defaultLimit).limit.getD 0 = 0) (listed : db.list none = .ok issues)
    (ascending : issues.Pairwise fun a b => a.id.getD 0 ≤ b.id.getD 0)
    (each : ∀ i ∈ issues, q.accepts i now = .ok (accepted i)) :
    run db raw now defaultLimit = .ok ⟨issues.filter accepted, (issues.filter accepted).length⟩ := by
  refine run_eq_ok.mpr ⟨q, issues, parsed, listed, execute_withDefaultLimit.mpr
    ⟨_, issues.filter accepted, Query.select_eq_ok each, ?_, ?_⟩⟩
  · rw [Query.arrange, unsorted]
    exact congrArg Except.ok (sortById_eq_self (ascending.filter _))
  · cases limit : (withDefaultLimit q defaultLimit).limit with
    | none => rfl
    | some n =>
      have zero : n = 0 := by simpa [limit] using unlimited
      simp [cutOff, zero]

/-- A search that succeeds counts all issues that satisfy the query, whatever the limit, and answers
    the first of those that it answers with a limit of zero behind it: as many as the last limit in it
    says, or else the default limit, and all of them for a limit of zero. -/
theorem run_limit {defaultLimit : Nat} {r : SearchResult}
    (answers : run db raw now defaultLimit = .ok r) :
    ∃ q issues all, parseQuery raw = .ok q ∧ db.list none = .ok issues ∧
      (∀ other : Nat, run db (raw ++ " limit:0") now other = .ok all) ∧
      all.issues.Perm (issues.filter fun i => q.accepts i now = .ok true) ∧
      r.total = (issues.filter fun i => q.accepts i now = .ok true).length ∧
      let limit := (limits (tokenize raw.toList)).getLast?.getD defaultLimit
      r.issues = (if limit = 0 then all.issues else all.issues.take limit) ∧
        r.count = if limit = 0 then r.total else min r.total limit := by
  obtain ⟨q, issues, parsed, listed, runs⟩ := run_eq_ok.mp answers
  obtain ⟨selected, arranged, selects, arranges, rfl⟩ := execute_withDefaultLimit.mp runs
  have same := Query.of_select_eq_ok selects
  have perm := Query.perm_of_arrange arranges
  refine ⟨q, issues, ⟨arranged, selected.length⟩, parsed, listed, ?_, same ▸ perm, ?_, ?_⟩
  · intro other
    refine run_eq_ok.mpr ⟨_, issues, parseQuery_append_unlimited parsed, listed, ?_⟩
    refine execute_withDefaultLimit.mpr ⟨selected, arranged, ?_, arranges, ?_⟩
    · rw [Query.select_withLimit]
      exact selects
    · simp [withDefaultLimit, cutOff]
  · rw [← same]
  · obtain ⟨d, read, _, rfl⟩ := parseQuery_eq_ok.mp parsed
    have isLimit : d.query.limit = (limits (tokenize raw.toList)).getLast?.map Int.ofNat := by
      rw [← limit_of_readTokens read]
      rfl
    have cut := cutOff_withDefaultLimit isLimit defaultLimit arranged
    refine ⟨cut, ?_⟩
    rw [SearchResult.count, cut, length_cutOff, perm.length_eq]

private def crash : Record where
  id := 1
  title := "Crash"
  description := ""
  type := "bug"
  status := "open"
  priority := "high"
  assignee := ""
  branch := ""
  createdAt := "2024-01-01T00:00:00"
  updatedAt := "2024-01-01T00:00:00"
  closedAt := none

/-- Of two bugs the latest is answered, and the default limit of 50 does not count. -/
theorem run_limit_latest :
    let db := Database.ready { records := [crash, { crash with id := 2 }] }
    ∃ r all, run db "type:bug sort:id:desc limit:1" .earliest 50 = .ok r ∧
      run db "type:bug sort:id:desc limit:1 limit:0" .earliest 50 = .ok all ∧
      r.issues = all.issues.take 1 ∧ r.total = 2 ∧ r.count = 1 := by
  intro db
  obtain ⟨q, parsed⟩ : ∃ q, parseQuery "type:bug sort:id:desc limit:1" = .ok q := ⟨_, rfl⟩
  obtain ⟨issues, listed⟩ : ∃ issues, db.list none = .ok issues := ⟨_, rfl⟩
  have searchable : ∀ i ∈ issues, i.isSearchable := by
    cases listed
    decide +kernel
  have naive : Moment.earliest.isNaive := rfl
  obtain ⟨r, answers⟩ := exists_run_eq_ok parsed (by decide) naive listed searchable (50 : Nat)
  obtain ⟨_, _, all, parsed', listed', unlimited, _, total, first, count⟩ := run_limit answers
  cases parsed.symm.trans parsed'
  cases listed.symm.trans listed'
  have last : (limits (tokenize "type:bug sort:id:desc limit:1".toList)).getLast? = some 1 := by decide
  have two : r.total = 2 := by
    rw [total]
    cases parsed
    cases listed
    decide +kernel
  rw [last] at first count
  refine ⟨r, all, answers, unlimited 50, first, two, ?_⟩
  rw [count, two]
  rfl

end IssueTracker.Search
