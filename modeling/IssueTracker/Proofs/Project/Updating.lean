import IssueTracker.Proofs.Project.Reading
import IssueTracker.Proofs.Store.Updating

/-!
# Updating an issue of a project

An update is made if the issue is there and the changes are accepted, and fails otherwise
(`Database.of_update_eq_ok`, `Database.exists_update`).  It changes of the issue what it was given, and the
time of change; no other issue is read differently, also when it shares labels with this one.
-/

namespace IssueTracker

namespace Database
variable {s : Store} {id : Int} {c : Changes} {now : Moment}

theorem of_update_eq_ok {db : Database} (updates : (ready s).update id c now = .ok db) :
    id ∈ s.ids ∧ c.IsAccepted := by
  obtain ⟨_, s', i, assignments, isReady, finds, checks, changes, _⟩ := update_eq_ok.mp updates
  cases isReady
  have there := (Store.of_find?_eq_some finds).2
  refine ⟨Store.mem_ids_iff.mpr there, (Changes.check_eq_ok.mp checks).1, ?_⟩
  obtain ⟨t, _, ⟨absent, _⟩ | ⟨_, set⟩⟩ := Store.update_eq_ok changes
  · simp [absent]
  · obtain ⟨names, normal, _⟩ := Store.setLabels_eq_ok.mp set
    intro missing
    rw [normalizeLabels_eq, if_pos missing] at normal
    cases normal

/-- Accepted changes are made of an issue that is there, and of no other. -/
theorem exists_update (intact : s.IsIntact) (readable : s.IsReadable) (there : id ∈ s.ids)
    (accepted : c.IsAccepted) (now : Moment) :
    ∃ i i' s', s.find? id = .ok (some i) ∧ (ready s).update id c now = .ok (ready s') ∧
      s'.find? id = .ok (some i') ∧ c.Makes now i i' ∧
      ∀ other, other ≠ id → s'.find? other = s.find? other := by
  have fits := intact.fits id there
  have isThere := Store.mem_ids_iff.mp there
  obtain ⟨i, finds⟩ := Store.find?_readable readable fits isThere
  have given : ∀ a ∈ c.values.filter (·.2.isSome), a.2.isSome :=
    fun a member => (List.mem_filter.mp member).2
  obtain ⟨s', updates⟩ := Store.exists_update fits isThere given accepted.labels now
  obtain ⟨⟨i', finds', makes⟩, others⟩ := Store.update_makes intact updates finds
  refine ⟨i, i', s', finds, ?_, finds', makes, others⟩
  have checks := Changes.check_eq_ok.mpr ⟨accepted.toHasAcceptedTexts, rfl⟩
  exact update_eq_ok.mpr ⟨s, s', i, _, rfl, finds, checks, updates, rfl⟩

end Database

namespace Project

/-- An issue of a file is updated: what is read under its id before and after differs by the changes, and
    what is read under any other id is the same. -/
structure Updates [Json.Nesting] (p : Project) (file : String) (id : Int) (c : Changes) (i i' : Issue)
    (p' : Project) : Prop where
  before : p.handle file (.find id) = (.ok (.issue (some i)), p)
  answer : p.handle file (.update id c) = (.ok (.issue (some i')), p')
  after : p'.handle file (.find id) = (.ok (.issue (some i')), p')
  makes : c.Makes p.clock i i'
  others : ∀ other, other ≠ id → (p'.handle file (.find other)).1 = (p.handle file (.find other)).1

/-- Whatever was asked of a project before, checked or not: an issue that is there is updated with any
    changes that are accepted, be they all, some or none.  The update changes what it was given and the
    time of change, and leaves all else of the issue and all other issues as they are.  Any other update
    fails and changes nothing. -/
theorem update_changesOnly [Json.Nesting] (settings : SettingsFile) (clock : Moment)
    (before : List (String × Request)) (file : String) {s : Store}
    (tables : ((fresh settings clock).run before).2.database file = .ready s) (id : Int) (c : Changes) :
    let p := ((fresh settings clock).run before).2
    (id ∈ s.ids ∧ c.IsAccepted → ∃ i i' p', p.Updates file id c i i' p') ∧
      (¬ (id ∈ s.ids ∧ c.IsAccepted) → ∃ failure, p.handle file (.update id c) = (.error failure, p)) := by
  intro p
  have intact := isIntact_run tables
  have readable : s.IsReadable :=
    isReadable_database (isReadable_run (isReadable_fresh settings clock) before) file s tables
  constructor
  · rintro ⟨there, accepted⟩
    obtain ⟨i, i', s', finds, updates, finds', makes, others⟩ :=
      Database.exists_update intact readable there accepted p.clock
    have after := database_setDatabase_self tables (.ready s')
    refine ⟨i, i', p.setDatabase file (.ready s'), ?_, ?_, ?_, makes, ?_⟩
    · rw [handle_find tables, finds]
      rfl
    · have reads : (Database.ready s').get id = .ok i' := Database.get_eq_ok.mpr ⟨s', rfl, finds'⟩
      rw [handle, changeIssue, tables, updates]
      simp only [change, Except.map, reads]
      rfl
    · rw [handle_find after, finds']
      rfl
    · intro other apart
      rw [handle_find after, handle_find tables, others other apart]
  · intro refused
    cases updates : (Database.ready s).update id c p.clock with
    | ok db => exact absurd (Database.of_update_eq_ok updates) refused
    | error failure =>
      refine ⟨.store failure, ?_⟩
      rw [handle, changeIssue, tables, updates]
      rfl

private def sharing : List (String × Request) := [
  ("issues.db", .create { title := some "Crash", description := some "often", labels := .ofNames ["ui", "net"] }),
  ("issues.db", .create { title := some "Freeze", labels := .ofNames ["ui"] }),
  ("issues.db", .close 2), ("issues.db", .setClock (.atMidnight .first))]

/-- A title, a priority and labels are given, the description is emptied: the labels that are taken away are
    still those of the other issue. -/
theorem update_changesOnly_sharedLabels :
    let p := ((fresh .missing .earliest).run sharing).2
    let c : Changes := { title := some " Slow ", description := some "", priority := some " HIGH"
                         labels := .ofNames [" net ", "", "net"] }
    (∃ s, p.database "issues.db" = .ready s ∧ 1 ∈ s.ids) ∧ c.IsAccepted ∧
      ∃ i i' p', p.Updates "issues.db" 1 c i i' p' ∧ i'.title = some "Slow" ∧ i'.description = some "" ∧
        i'.priority = some "high" ∧ i'.type = i.type ∧ i'.labels.Tidies [" net ", "", "net"] ∧
        i'.updatedAt = some (.atMidnight .first) ∧
        (p'.handle "issues.db" (.find 2)).1 = (p.handle "issues.db" (.find 2)).1 := by
  intro p c
  have accepted : c.IsAccepted :=
    ⟨⟨by simp [c]; decide, by simp [c], by simp [c]; decide⟩, by decide⟩
  obtain ⟨s, tables⟩ : ∃ s, p.database "issues.db" = .ready s := ⟨_, rfl⟩
  have there : 1 ∈ s.ids := by
    cases tables
    decide
  obtain ⟨i, i', p', updates⟩ :=
    (update_changesOnly .missing .earliest sharing "issues.db" tables 1 c).1 ⟨there, accepted⟩
  refine ⟨⟨s, tables, there⟩, accepted, i, i', p', updates, ?_, updates.makes.description, ?_,
    updates.makes.type, updates.makes.labels (by simp [c, LabelList.ofNames]), updates.makes.updatedAt,
    updates.others 2 (by decide)⟩
  · have stripped : Text.strip " Slow " = "Slow" := by decide
    exact updates.makes.title.trans (congrArg some stripped)
  · have lowered : normalWord " HIGH" = "high" := by decide
    exact updates.makes.priority.trans (congrArg some lowered)

end Project

end IssueTracker
