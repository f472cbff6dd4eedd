import IssueTracker.Store.Database
import IssueTracker.Proofs.Calendar.Moment
import IssueTracker.Proofs.Outcome
import IssueTracker.Proofs.Text.Trim

/-!
# Records

The texts of a record are checked before they are stored (`Record.HasProperTexts`), and its times
are the moments at which it was stored (`Record.Times`).  What the checks let through keeps the
texts proper, column by column (`Store.Column.write_proper`).
-/

namespace IssueTracker

/-- The texts of a record are such as the checks let through. -/
structure Record.HasProperTexts (r : Record) : Prop where
  title : IsName r.title
  type : r.type ∈ issueTypes
  status : r.status ∈ statuses
  priority : r.priority ∈ priorities
  assignee : Text.strip r.assignee = r.assignee
  branch : Text.strip r.branch = r.branch

/-- The times of a record are those of moments without an offset; it has a time of closing when its
    status ends the work. -/
structure Record.Times (r : Record) (created updated : Moment) (closed : Option Moment) : Prop where
  createdAt : r.createdAt = created.isoSeconds
  updatedAt : r.updatedAt = updated.isoSeconds
  closedAt : r.closedAt = closed.map Moment.isoSeconds
  isClosed : closed.isSome = isClosing r.status
  createdNaive : created.isNaive
  updatedNaive : updated.isNaive
  closedNaive : closed.all Moment.isNaive

/-- What an operation at a moment makes of a record: the time of closing stays with the status, is
    kept or set when the work ends, and cleared when it goes on. -/
structure Record.Revises (now : Moment) (r r' : Record) : Prop where
  id : r'.id = r.id
  createdAt : r'.createdAt = r.createdAt
  updatedAt : r'.updatedAt = now.isoSeconds
  closedAt : r'.status = r.status ∧ r'.closedAt = r.closedAt ∨
    isClosing r'.status = true ∧ r'.closedAt = some (r.closedAt.getD now.isoSeconds) ∨
    isClosing r'.status = false ∧ r'.closedAt = none
  proper : r.HasProperTexts → r'.HasProperTexts

/-- A record that keeps its time of creation has the times of its change and its closing. -/
theorem Record.Times.amend {r r' : Record} {created updated updated' : Moment}
    {closed closed' : Option Moment} (times : r.Times created updated closed)
    (createdAt : r'.createdAt = r.createdAt) (updatedAt : r'.updatedAt = updated'.isoSeconds)
    (updatedNaive : updated'.isNaive) (closedAt : r'.closedAt = closed'.map Moment.isoSeconds)
    (isClosed : closed'.isSome = isClosing r'.status) (closedNaive : closed'.all Moment.isNaive) :
    r'.Times created updated' closed' where
  createdAt := createdAt.trans times.createdAt
  updatedAt := updatedAt
  closedAt := closedAt
  isClosed := isClosed
  createdNaive := times.createdNaive
  updatedNaive := updatedNaive
  closedNaive := closedNaive

/-- A revision keeps the time of creation, and closes at the moment if at any new time. -/
theorem Record.Revises.times {now : Moment} {r r' : Record} (revises : r.Revises now r')
    (naive : now.isNaive) {created updated : Moment} {closed : Option Moment}
    (times : r.Times created updated closed) :
    ∃ closed' : Option Moment, r'.Times created now closed' ∧
      ∀ t, closed' = some t → closed = some t ∨ t = now := by
  have build {closed' : Option Moment} (closedAt : r'.closedAt = closed'.map Moment.isoSeconds) :=
    times.amend revises.createdAt revises.updatedAt naive closedAt
  rcases revises.closedAt with ⟨status, same⟩ | ⟨closing, stamp⟩ | ⟨isOpen, cleared⟩
  · refine ⟨closed, build (same.trans times.closedAt) ?_ times.closedNaive, fun t is => Or.inl is⟩
    rw [status]
    exact times.isClosed
  · cases closed with
    | none =>
      refine ⟨some now, build ?_ closing.symm naive, fun t is => Or.inr (Option.some.inj is).symm⟩
      rw [stamp, times.closedAt]
      rfl
    | some before =>
      refine ⟨some before, build ?_ closing.symm times.closedNaive, fun t is => Or.inl is⟩
      rw [stamp, times.closedAt]
      rfl
  · exact ⟨none, build cleared isOpen.symm rfl, by simp⟩

/-! ## Checks -/

theorem Vocabulary.check_eq_ok {vocabulary : Vocabulary} {value : Option String} {word : String} :
    vocabulary.check value = .ok word ↔
      Text.lower (Text.strip (value.getD "")) = word ∧ word ∈ vocabulary.words := by
  rw [check]
  generalize Text.lower (Text.strip (value.getD "")) = found
  by_cases known : found ∈ vocabulary.words
  · simp only [List.contains_iff_mem.mpr known, if_true, Except.ok.injEq]
    constructor
    · rintro rfl
      exact ⟨rfl, known⟩
    · exact And.left
  · simp only [List.contains_iff_mem, known, if_false]
    constructor
    · intro failed
      cases failed
    · rintro ⟨rfl, member⟩
      exact absurd member known

theorem checkTitle_eq_ok {given title : String} :
    checkTitle given = .ok title ↔ Text.strip given = title ∧ title ≠ "" := by
  rw [checkTitle]
  split
  · rename_i empty
    constructor
    · intro failed
      cases failed
    · rintro ⟨rfl, filled⟩
      exact absurd empty filled
  · rename_i filled
    rw [Except.ok.injEq]
    constructor
    · rintro rfl
      exact ⟨rfl, filled⟩
    · exact And.left

theorem isName_of_checkTitle {given title : String} (checks : checkTitle given = .ok title) :
    IsName title := by
  obtain ⟨rfl, filled⟩ := checkTitle_eq_ok.mp checks
  exact ⟨filled, Text.strip_strip given⟩

/-! ## Columns -/

namespace Store.Column

/-- A value that a checked change gives a column. -/
def Accepts : Column → String → Prop
  | title, value => IsName value
  | description, _ => True
  | type, value => value ∈ issueTypes
  | priority, value => value ∈ priorities
  | assignee, value => Text.strip value = value
  | branch, value => Text.strip value = value

/-- Writing into a column leaves the id, the status and the times alone. -/
theorem write_frame (column : Column) (value : Option String) (r : Record) :
    (column.write value r).id = r.id ∧ (column.write value r).status = r.status ∧
      (column.write value r).createdAt = r.createdAt ∧
      (column.write value r).closedAt = r.closedAt := by
  cases column <;> exact ⟨rfl, rfl, rfl, rfl⟩

theorem write_proper {column : Column} {value : String} (accepts : column.Accepts value) {r : Record}
    (proper : r.HasProperTexts) : (column.write (some value) r).HasProperTexts := by
  cases column with
  | title => exact { proper with title := accepts }
  | description => exact { proper with }
  | type => exact { proper with type := accepts }
  | priority => exact { proper with priority := accepts }
  | assignee => exact { proper with assignee := accepts }
  | branch => exact { proper with branch := accepts }

end Store.Column

/-- Assignments of values that the columns accept. -/
def ProperAssignments (assignments : List Store.Assignment) : Prop :=
  ∀ assignment ∈ assignments, ∃ value, assignment.2 = some value ∧ assignment.1.Accepts value

/-- The record after a list of assignments. -/
def Record.assign (assignments : List Store.Assignment) (r : Record) : Record :=
  assignments.foldl (fun r assignment => assignment.1.write assignment.2 r) r

/-- Assignments leave the id, the status and the times alone. -/
theorem Record.assign_frame (assignments : List Store.Assignment) (r : Record) :
    (r.assign assignments).id = r.id ∧ (r.assign assignments).status = r.status ∧
      (r.assign assignments).createdAt = r.createdAt ∧
      (r.assign assignments).closedAt = r.closedAt := by
  induction assignments generalizing r with
  | nil => exact ⟨rfl, rfl, rfl, rfl⟩
  | cons first later ih =>
    obtain ⟨id, status, created, closed⟩ := first.1.write_frame first.2 r
    obtain ⟨id', status', created', closed'⟩ := ih (first.1.write first.2 r)
    exact ⟨id'.trans id, status'.trans status, created'.trans created, closed'.trans closed⟩

theorem Record.assign_proper {assignments : List Store.Assignment}
    (accepted : ProperAssignments assignments) {r : Record} (proper : r.HasProperTexts) :
    (r.assign assignments).HasProperTexts := by
  induction assignments generalizing r with
  | nil => exact proper
  | cons first later ih =>
    obtain ⟨value, given, accepts⟩ := accepted first List.mem_cons_self
    refine ih (fun other member => accepted other (List.mem_cons_of_mem _ member)) ?_
    simp only [given]
    exact Store.Column.write_proper accepts proper

/-- Assignments at a moment revise a record. -/
theorem Record.revises_assign {assignments : List Store.Assignment}
    (accepted : ProperAssignments assignments) (now : Moment) (r : Record) :
    r.Revises now { r.assign assignments with updatedAt := now.isoSeconds } := by
  obtain ⟨id, status, created, closed⟩ := r.assign_frame assignments
  exact {
    id := id
    createdAt := created
    updatedAt := rfl
    closedAt := Or.inl ⟨status, closed⟩
    proper := fun before => { assign_proper accepted before with } }

/-- What the checks of changes let through are values that the columns accept. -/
theorem properAssignments_of_check {c : Changes} {assignments : List Store.Assignment}
    (checks : c.check = .ok assignments) : ProperAssignments assignments := by
  obtain ⟨title, titleChecks, checks⟩ := bind_eq_ok.mp checks
  obtain ⟨type, typeChecks, checks⟩ := bind_eq_ok.mp checks
  obtain ⟨priority, priorityChecks, checks⟩ := bind_eq_ok.mp checks
  cases checks
  have stripped {given : Option String} {value : String}
      (same : some value = given.map Text.strip) : Text.strip value = value := by
    obtain ⟨text, _, rfl⟩ := Option.map_eq_some_iff.mp same.symm
    exact Text.strip_strip text
  rintro ⟨column, value⟩ member
  obtain ⟨inside, present⟩ := List.mem_filter.mp member
  obtain ⟨value, rfl⟩ := Option.isSome_iff_exists.mp present
  refine ⟨value, rfl, ?_⟩
  simp only [List.mem_cons, Prod.mk.injEq, List.not_mem_nil, or_false] at inside
  rcases inside with ⟨rfl, rfl⟩ | ⟨rfl, same⟩ | ⟨rfl, rfl⟩ | ⟨rfl, rfl⟩ | ⟨rfl, same⟩ | ⟨rfl, same⟩
  · obtain ⟨given, _, titleChecks⟩ := optionMapM_eq_ok_some.mp titleChecks
    exact isName_of_checkTitle titleChecks
  · trivial
  · obtain ⟨given, _, typeChecks⟩ := optionMapM_eq_ok_some.mp typeChecks
    exact (Vocabulary.check_eq_ok.mp typeChecks).2
  · obtain ⟨given, _, priorityChecks⟩ := optionMapM_eq_ok_some.mp priorityChecks
    exact (Vocabulary.check_eq_ok.mp priorityChecks).2
  · exact stripped same
  · exact stripped same

end IssueTracker
