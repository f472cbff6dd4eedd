import Mathlib.Data.List.Induction
import IssueTracker.Proofs.Store.Evolution

/-!
# Histories

A history is what a run of operations makes of an empty database, each at its own moment; an
operation that fails changes nothing (`History.run`).  Whatever the operations and the clock, every
issue that can be read afterwards is proper and no id is given twice; where the clock does not go
back, the times of every issue are in order (`History.run_proper`).
-/

namespace IssueTracker

/-- An operation on issues, with what a caller hands it. -/
inductive Operation
  | create (new : NewIssue)
  | update (id : Int) (changes : Changes)
  | setStatus (id : Int) (status : Option String)
  | close (id : Int)
  | reopen (id : Int)
  | delete (id : Int)

/-- Performs an operation and answers the id that it hands out, if any. -/
def Operation.perform (operation : Operation) (now : Moment) (db : Database) :
    Except StoreError (Option Int × Database) :=
  match operation with
  | create new => (db.create new now).map fun (id, db) => (some id, db)
  | update id changes => (db.update id changes now).map fun db => (none, db)
  | setStatus id status => (db.setStatus id status now).map fun db => (none, db)
  | close id => (db.close id now).map fun db => (none, db)
  | reopen id => (db.reopen id now).map fun db => (none, db)
  | delete id => (db.delete id).map fun db => (none, db)

/-- An operation and the moment at which it is performed, on a clock without an offset. -/
structure Step where
  operation : Operation
  clock : Moment
  naive : clock.isNaive

/-- A database and the ids that were handed out, first to last. -/
structure History where
  database : Database := .ready {}
  created : List Int := []

namespace History

/-- One more step. -/
def step (h : History) (s : Step) : History :=
  match s.operation.perform s.clock h.database with
  | .ok (created, database) => ⟨database, h.created ++ created.toList⟩
  | .error _ => h

/-- The history of a list of steps, from an empty database on. -/
def run (steps : List Step) : History := steps.foldl step {}

end History

/-- The clock does not go back between any two steps. -/
def ClockAscends (steps : List Step) : Prop :=
  steps.Pairwise fun early late => early.clock.instant ≤ late.clock.instant

/-! ## Issues as they are read -/

/-- An issue whose texts, status and labels are in order. -/
structure Issue.IsProper (i : Issue) : Prop where
  title : ∃ title, i.title = some title ∧ IsName title
  type : ∃ type ∈ issueTypes, i.type = some type
  status : ∃ status ∈ statuses, i.status = some status ∧ i.closedAt.isSome = isClosing status
  priority : ∃ priority ∈ priorities, i.priority = some priority
  assignee : ∃ assignee, i.assignee = some assignee ∧ Text.strip assignee = assignee
  branch : ∃ branch, i.branch = some branch ∧ Text.strip branch = branch
  labels : ∃ names, i.labels = .ofNames names ∧ names.Pairwise (· < ·) ∧ ∀ name ∈ names, IsName name

/-- An issue that was not changed before it was created, nor closed before it was created or after it
    was changed. -/
def Issue.IsChronological (i : Issue) : Prop :=
  ∃ created updated, i.createdAt = some created ∧ i.updatedAt = some updated ∧
    created.instant ≤ updated.instant ∧
    ∀ closed, i.closedAt = some closed →
      created.instant ≤ closed.instant ∧ closed.instant ≤ updated.instant

/-- The issue in a record with these times. -/
def Record.issue (r : Record) (labels : List String) (created updated closed : Option Moment) :
    Issue where
  title := some r.title
  description := some r.description
  type := some r.type
  status := some r.status
  priority := some r.priority
  assignee := some r.assignee
  branch := some r.branch
  labels := .ofNames labels
  createdAt := created
  updatedAt := updated
  closedAt := closed
  id := some r.id

/-- A record with times is read as its issue, to the second. -/
theorem Record.Times.issueOf {r : Record} {created updated : Moment} {closed : Option Moment}
    (times : r.Times created updated closed) (s : Store) :
    s.issueOf r = .ok (r.issue (s.labelsOf r.id) created.wholeSecond updated.wholeSecond
      (closed.map Moment.wholeSecond)) := by
  have reads {m : Moment} (naive : m.isNaive) :
      Store.readTime m.isoSeconds = .ok (some m.wholeSecond) := by
    rw [Store.readTime, Moment.ofIso?_of_ofIso (Moment.ofIso_isoSeconds naive)]
    rfl
  have readsClosed : Store.readTime r.closedAt = .ok (closed.map Moment.wholeSecond) := by
    rw [times.closedAt]
    cases closed with
    | none => rfl
    | some m => exact reads times.closedNaive
  rw [Store.issueOf, times.createdAt, times.updatedAt, reads times.createdNaive,
    reads times.updatedNaive, readsClosed]
  rfl

/-- Where every record is read as a related issue, all issues are listed. -/
theorem Database.list_related {s : Store} {Related : Record → Issue → Prop}
    (each : ∀ r ∈ s.records, ∃ i, s.issueOf r = .ok i ∧ Related r i) :
    ∃ issues, (ready s).list none = .ok issues ∧ List.Forall₂ Related s.records issues := by
  obtain ⟨issues, read, related⟩ := exists_mapM_eq_ok each
  exact ⟨issues, bind_eq_ok.mpr ⟨s, rfl, bind_eq_ok.mpr ⟨issues, read, rfl⟩⟩, related⟩

/-- The issue of a record is proper. -/
theorem Record.isProper_issue {r : Record} (proper : r.HasProperTexts) {created updated : Moment}
    {closed : Option Moment} (times : r.Times created updated closed) {s : Store}
    (labels : s.HasSoundLabels) :
    (r.issue (s.labelsOf r.id) created.wholeSecond updated.wholeSecond
      (closed.map Moment.wholeSecond)).IsProper where
  title := ⟨_, rfl, proper.title⟩
  type := ⟨_, proper.type, rfl⟩
  status := ⟨_, proper.status, rfl, by simpa [issue] using times.isClosed⟩
  priority := ⟨_, proper.priority, rfl⟩
  assignee := ⟨_, rfl, proper.assignee⟩
  branch := ⟨_, rfl, proper.branch⟩
  labels := ⟨_, rfl, Store.pairwise_labelsOf labels r.id,
    fun _ member => Store.isName_of_mem_labelsOf labels member⟩

/-! ## Runs -/

/-- A successful operation makes of a sound store what operations make of one. -/
theorem Operation.perform_evolves {operation : Operation} {now : Moment} {s : Store}
    (sound : s.IsSound) {created : Option Int} {db : Database}
    (performs : operation.perform now (.ready s) = .ok (created, db)) :
    ∃ s', db = .ready s' ∧ s.Evolves now created s' := by
  cases operation with
  | create new =>
    rw [perform] at performs
    obtain ⟨⟨id, after⟩, run, same⟩ := map_eq_ok.mp performs
    cases same
    exact Database.create_evolves run
  | update id changes =>
    rw [perform] at performs
    obtain ⟨after, run, same⟩ := map_eq_ok.mp performs
    cases same
    exact Database.update_evolves run
  | setStatus id status =>
    rw [perform] at performs
    obtain ⟨after, run, same⟩ := map_eq_ok.mp performs
    cases same
    exact Database.setStatus_evolves sound.distinct run
  | close id =>
    rw [perform, Database.close] at performs
    obtain ⟨after, run, same⟩ := map_eq_ok.mp performs
    cases same
    exact Database.setStatus_evolves sound.distinct run
  | reopen id =>
    rw [perform, Database.reopen] at performs
    obtain ⟨after, run, same⟩ := map_eq_ok.mp performs
    cases same
    exact Database.setStatus_evolves sound.distinct run
  | delete id =>
    rw [perform] at performs
    obtain ⟨after, run, same⟩ := map_eq_ok.mp performs
    cases same
    exact Database.delete_evolves run

namespace History

theorem run_concat (steps : List Step) (s : Step) : run (steps ++ [s]) = (run steps).step s := by
  simp [run]

/-- What holds at the start, and is kept by each operation on the sound store of a run, whether it
    succeeds or fails, holds after every run. -/
theorem run_steps {motive : List Step → Store → List Int → Prop} (start : motive [] {} [])
    (perform : ∀ steps s created step handed s', (run steps).database = .ready s →
      motive steps s created → s.IsSound →
      step.operation.perform step.clock (.ready s) = .ok (handed, .ready s') →
      motive (steps ++ [step]) s' (created ++ handed.toList))
    (fail : ∀ steps s created step failure, (run steps).database = .ready s →
      motive steps s created →
      step.operation.perform step.clock (.ready s) = .error failure →
      motive (steps ++ [step]) s created)
    (steps : List Step) :
    ∃ s, (run steps).database = .ready s ∧ s.IsSound ∧ motive steps s (run steps).created := by
  induction steps using List.reverseRecOn with
  | nil => exact ⟨{}, rfl, Store.isSound_empty, start⟩
  | append_singleton steps last ih =>
    obtain ⟨s, isReady, sound, holds⟩ := ih
    rw [run_concat, step, isReady]
    cases performs : last.operation.perform last.clock (.ready s) with
    | error failure => exact ⟨s, isReady, sound, fail steps s _ last failure isReady holds performs⟩
    | ok result =>
      obtain ⟨handed, db⟩ := result
      obtain ⟨s', rfl, evolves⟩ := Operation.perform_evolves sound performs
      exact ⟨s', rfl, sound.evolve last.naive evolves,
        perform steps s _ last handed s' isReady holds sound performs⟩

/-- What holds at the start and is kept by what operations make of a sound store holds after every
    run.  Steps that fail are passed over. -/
theorem run_induction {motive : List Step → Store → List Int → Prop} (start : motive [] {} [])
    (evolve : ∀ steps s created step handed s', motive steps s created → s.IsSound →
      s.Evolves step.clock handed s' → motive (steps ++ [step]) s' (created ++ handed.toList))
    (fail : ∀ steps s created step, motive steps s created → motive (steps ++ [step]) s created)
    (steps : List Step) :
    ∃ s, (run steps).database = .ready s ∧ s.IsSound ∧ motive steps s (run steps).created := by
  refine run_steps start ?_ (fun steps s created step _ _ holds _ => fail steps s created step holds) steps
  intro steps s created step handed s' _ holds sound performs
  obtain ⟨_, same, evolves⟩ := Operation.perform_evolves sound performs
  cases same
  exact evolve steps s created step handed s' holds sound evolves

/-- Ids are handed out in ascending order, up to the last one given. -/
def Counts (_ : List Step) (s : Store) (created : List Int) : Prop :=
  created.Pairwise (· < ·) ∧ ∀ id ∈ created, id ≤ s.lastRecord

theorem Counts.evolve {steps : List Step} {s s' : Store} {created : List Int} {step : Step}
    {handed : Option Int} (counts : Counts steps s created)
    (evolves : s.Evolves step.clock handed s') :
    Counts (steps ++ [step]) s' (created ++ handed.toList) := by
  obtain ⟨ascending, bound⟩ := counts
  have grows := evolves.lastRecord_le
  cases handed with
  | none =>
    refine ⟨by simpa using ascending, fun id member => ?_⟩
    have before := bound id (by simpa using member)
    omega
  | some id =>
    obtain ⟨isNext, isLast⟩ := evolves.created_eq
    constructor
    · rw [List.pairwise_append]
      refine ⟨ascending, by simp, fun old member new single => ?_⟩
      have before := bound old member
      have same : new = id := by simpa using single
      omega
    · intro other member
      rcases List.mem_append.mp member with old | new
      · have before := bound other old
        omega
      · have same : other = id := by simpa using new
        omega

/-- The times of a record are in order, and the last of them is that of a step. -/
def IsOrdered (steps : List Step) (r : Record) : Prop :=
  ∃ created updated closed, r.Times created updated closed ∧ created.instant ≤ updated.instant ∧
    (∀ t, closed = some t → created.instant ≤ t.instant ∧ t.instant ≤ updated.instant) ∧
    ∃ step ∈ steps, step.clock = updated

/-- As long as the clock does not go back, the times of all records are in order. -/
def Orders (steps : List Step) (s : Store) (_ : List Int) : Prop :=
  ClockAscends steps → ∀ r ∈ s.records, IsOrdered steps r

theorem IsOrdered.concat {steps : List Step} {r : Record} (ordered : IsOrdered steps r) (step : Step) :
    IsOrdered (steps ++ [step]) r := by
  obtain ⟨created, updated, closed, times, before, between, last, member, same⟩ := ordered
  exact ⟨created, updated, closed, times, before, between, last, List.mem_append_left _ member, same⟩

theorem Orders.evolve {steps : List Step} {s s' : Store} {created : List Int} {step : Step}
    {handed : Option Int} (orders : Orders steps s created)
    (evolves : s.Evolves step.clock handed s') :
    Orders (steps ++ [step]) s' (created ++ handed.toList) := by
  intro ascends r' member
  obtain ⟨earlier, _, latest⟩ := List.pairwise_append.mp ascends
  rcases evolves.origin member with old | ⟨r, old, revises⟩ | ⟨fresh, _⟩
  · exact (orders earlier r' old).concat step
  · obtain ⟨created, updated, closed, times, before, between, last, isStep, rfl⟩ := orders earlier r old
    obtain ⟨closed', times', closes⟩ := revises.times step.naive times
    -- The last change is that of an earlier step, so it is not after this one.
    have later : last.clock.instant ≤ step.clock.instant := latest last isStep step (by simp)
    refine ⟨created, step.clock, closed', times', le_trans before later, ?_, step, by simp, rfl⟩
    intro t isClosed
    rcases closes t isClosed with kept | rfl
    · exact ⟨(between t kept).1, le_trans (between t kept).2 later⟩
    · exact ⟨le_trans before later, le_refl _⟩
  · exact ⟨step.clock, step.clock, none, fresh.times step.naive, le_refl _, by simp, step, by simp, rfl⟩

/-- A record whose times are in order is read as an issue whose times are. -/
theorem isChronological_of_times {r : Record} {created updated : Moment} {closed : Option Moment}
    (times : r.Times created updated closed) (before : created.instant ≤ updated.instant)
    (between : ∀ t, closed = some t → created.instant ≤ t.instant ∧ t.instant ≤ updated.instant)
    (labels : List String) :
    (r.issue labels created.wholeSecond updated.wholeSecond (closed.map Moment.wholeSecond)).IsChronological := by
  refine ⟨_, _, rfl, rfl, Moment.wholeSecond_mono times.createdNaive times.updatedNaive before, ?_⟩
  intro t isClosed
  obtain ⟨m, is, rfl⟩ := Option.map_eq_some_iff.mp isClosed
  have naive : m.isNaive := by simpa [is] using times.closedNaive
  obtain ⟨after, first⟩ := between m is
  exact ⟨Moment.wholeSecond_mono times.createdNaive naive after,
    Moment.wholeSecond_mono naive times.updatedNaive first⟩

/-- Whatever the operations and the clock, every issue that is read after a run is proper, no two of
    them have one id, and ids are handed out in ascending order; where the clock does not go back, the
    times of every issue are in order. -/
theorem run_proper (steps : List Step) :
    ∃ issues, (run steps).database.list none = .ok issues ∧ (∀ i ∈ issues, i.IsProper) ∧
      (issues.map (·.id)).Nodup ∧ (run steps).created.Pairwise (· < ·) ∧
      (ClockAscends steps → ∀ i ∈ issues, i.IsChronological) := by
  obtain ⟨s, isReady, sound, counts, orders⟩ := run_induction
    (motive := fun steps s created => Counts steps s created ∧ Orders steps s created)
    ⟨⟨by simp, by simp⟩, fun _ => by simp⟩
    (fun _ _ _ _ _ _ holds _ evolves => ⟨holds.1.evolve evolves, holds.2.evolve evolves⟩)
    (fun _ _ _ step holds => ⟨holds.1, fun ascends r member =>
      (holds.2 (List.pairwise_append.mp ascends).1 r member).concat step⟩)
    steps
  have each : ∀ r ∈ s.records, ∃ i, s.issueOf r = .ok i ∧
      (i.IsProper ∧ i.id = some r.id ∧ (ClockAscends steps → i.IsChronological)) := by
    intro r member
    by_cases ascends : ClockAscends steps
    · obtain ⟨created, updated, closed, times, before, between, _⟩ := orders ascends r member
      exact ⟨_, times.issueOf s, r.isProper_issue (sound.proper r member) times sound.labels, rfl,
        fun _ => isChronological_of_times times before between _⟩
    · obtain ⟨created, updated, closed, times⟩ := sound.times r member
      exact ⟨_, times.issueOf s, r.isProper_issue (sound.proper r member) times sound.labels, rfl,
        fun holds => absurd holds ascends⟩
  obtain ⟨issues, list, related⟩ := Database.list_related each
  rw [← isReady] at list
  have ids : issues.map (·.id) = s.records.map fun r => some r.id := by
    refine (List.forall₂_eq_eq_eq ▸ ?_ : s.records.map (fun r => some r.id) = issues.map (·.id)).symm
    rw [List.forall₂_map_left_iff, List.forall₂_map_right_iff]
    exact related.imp fun _ _ holds => holds.2.1.symm
  have proper : ∀ i ∈ issues, i.IsProper ∧ (ClockAscends steps → i.IsChronological) := by
    intro i member
    obtain ⟨r, _, holds⟩ := exists_of_mem_right related member
    exact ⟨holds.1, holds.2.2⟩
  refine ⟨issues, list, fun i member => (proper i member).1, ?_, counts.1,
    fun ascends i member => (proper i member).2 ascends⟩
  have distinct := sound.distinct.map (f := some) fun _ _ => Option.some.inj
  rw [List.map_map] at distinct
  rw [ids]
  exact distinct

/-- A deleted issue leaves a gap, and a failed operation nothing. -/
example : (run [
    ⟨.create { title := some " Crash " }, .earliest, rfl⟩, ⟨.close 1, .earliest, rfl⟩,
    ⟨.create { title := some " " }, .earliest, rfl⟩, ⟨.delete 1, .earliest, rfl⟩,
    ⟨.create { title := some "Crash" }, .earliest, rfl⟩]).created = [1, 2] := by
  decide +kernel

end History

end IssueTracker
