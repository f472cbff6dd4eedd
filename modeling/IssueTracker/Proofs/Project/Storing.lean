import IssueTracker.Proofs.Project.Reading

/-!
# Storing an issue as it is

An issue that has what a record needs is stored under the next id, unless there is none.  It is read back
with its times to the second and its labels tidied (`Issue.IsReadBack`); what was read back is a fixed
point of this (`Issue.IsReadBack.again`), and every other id is looked up as before.
-/

namespace IssueTracker

/-- An issue that has all that a record needs, and no missing label. -/
structure Issue.IsComplete (i : Issue) : Prop where
  title : i.title.isSome
  type : i.type.isSome
  status : i.status.isSome
  priority : i.priority.isSome
  labels : none ∉ i.labels.getD []

/-- What is read back under an id of an issue that was stored at a moment. -/
structure Issue.IsReadBack (i : Issue) (now : Moment) (id : Int) (kept : Issue) : Prop where
  id : kept.id = some id
  title : kept.title = i.title
  description : kept.description = some (i.description.getD "")
  type : kept.type = i.type
  status : kept.status = i.status
  priority : kept.priority = i.priority
  assignee : kept.assignee = some (i.assignee.getD "")
  branch : kept.branch = some (i.branch.getD "")
  labels : kept.labels.Tidies i.labels.entries
  createdAt : kept.createdAt = some (i.createdAt.getD now).asRead
  updatedAt : kept.updatedAt = (i.updatedAt.map Moment.asRead).or kept.createdAt
  closedAt : kept.closedAt = i.closedAt.map Moment.asRead

namespace Issue.IsReadBack
variable {i kept more : Issue} {now later : Moment} {id id' : Int}

theorem isComplete (back : i.IsReadBack now id kept) (complete : i.IsComplete) : kept.IsComplete where
  title := back.title ▸ complete.title
  type := back.type ▸ complete.type
  status := back.status ▸ complete.status
  priority := back.priority ▸ complete.priority
  labels := by
    obtain ⟨names, tidy, _⟩ := back.labels
    simp [tidy, LabelList.ofNames]

/-- What is read back of an issue that was read back is that issue, under the new id. -/
theorem again (first : i.IsReadBack now id kept) (second : kept.IsReadBack later id' more) :
    more = { kept with id := some id' } := by
  have created : more.createdAt = kept.createdAt := by
    rw [second.createdAt, first.createdAt, Option.getD_some, Moment.asRead_asRead]
  have updated : more.updatedAt = kept.updatedAt := by
    rw [second.updatedAt, created, first.updatedAt, first.createdAt]
    cases i.updatedAt with
    | none => simp [Moment.asRead_asRead]
    | some m => simp [Moment.asRead_asRead]
  have closed : more.closedAt = kept.closedAt := by
    rw [second.closedAt, first.closedAt, Option.map_map]
    cases i.closedAt with
    | none => rfl
    | some m => simp [Moment.asRead_asRead]
  have description : more.description = kept.description := by
    rw [second.description, first.description, Option.getD_some]
  have assignee : more.assignee = kept.assignee := by
    rw [second.assignee, first.assignee, Option.getD_some]
  have branch : more.branch = kept.branch := by
    rw [second.branch, first.branch, Option.getD_some]
  have labels : more.labels = kept.labels := first.labels.again second.labels
  obtain ⟨⟩ := more
  obtain ⟨⟩ := kept
  simp only [Issue.mk.injEq]
  exact ⟨second.title, description, second.type, second.status, second.priority, assignee, branch,
    labels, created, updated, closed, second.id⟩

end Issue.IsReadBack

/-! ## Stores -/

namespace Store
variable {s : Store} {i : Issue}

/-- The record of an issue is read back as the issue, if it has the labels. -/
theorem issueOf_record {id : Int} {title type status priority : String} (titled : i.title = some title)
    (typed : i.type = some type) (inStatus : i.status = some status)
    (prioritized : i.priority = some priority) (now : Moment)
    (tidy : (LabelList.ofNames (s.labelsOf id)).Tidies i.labels.entries) :
    ∃ kept, s.issueOf (i.record id title type status priority now) = .ok kept ∧
      i.IsReadBack now id kept := by
  refine ⟨_, issueOf_eq_ok_iff.mpr ⟨_, (i.updatedAt.getD (i.createdAt.getD now)).asRead, _,
    readTime_isoSeconds (some (i.createdAt.getD now)), ?_, readTime_isoSeconds _, rfl⟩, ?_⟩
  · rw [Issue.record]
    cases i.updatedAt with
    | none => exact readTime_isoSeconds (some (i.createdAt.getD now))
    | some m => exact readTime_isoSeconds (some m)
  · refine ⟨rfl, titled.symm, rfl, typed.symm, inStatus.symm, prioritized.symm, rfl, rfl, tidy, rfl, ?_, rfl⟩
    cases updated : i.updatedAt with
    | none => simp [Record.issue]
    | some m => simp [Record.issue]

theorem insert_full (full : ¬ fitsId (s.lastRecord + 1)) (now : Moment) : s.insert i now = .error .full := by
  rw [insert, nextId, if_neg full]
  rfl

/-- No record has the next id yet. -/
theorem IsConsistent.record?_next (consistent : s.IsConsistent) : s.record? (s.lastRecord + 1) = none := by
  refine notMem_ids_iff.mp fun there => ?_
  have bound := consistent.bound _ there
  omega

/-- A complete issue is stored under the next id and found there, and elsewhere nothing changes. -/
theorem exists_insert (intact : s.IsIntact) (complete : i.IsComplete) (now : Moment)
    (fits : fitsId (s.lastRecord + 1)) :
    ∃ s' kept, s.insert i now = .ok (s.lastRecord + 1, s') ∧ s'.lastRecord = s.lastRecord + 1 ∧
      s'.find? (s.lastRecord + 1) = .ok (some kept) ∧ i.IsReadBack now (s.lastRecord + 1) kept ∧
      ∀ other : Int, other ≠ s.lastRecord + 1 → s'.find? other = s.find? other := by
  obtain ⟨title, titled⟩ := Option.isSome_iff_exists.mp complete.title
  obtain ⟨type, typed⟩ := Option.isSome_iff_exists.mp complete.type
  obtain ⟨status, inStatus⟩ := Option.isSome_iff_exists.mp complete.status
  obtain ⟨priority, prioritized⟩ := Option.isSome_iff_exists.mp complete.priority
  have absent := intact.toIsConsistent.record?_next
  generalize next : (s.lastRecord : Int) + 1 = id at fits absent ⊢
  -- The store before the labels are set: the record is there, and no issue has other labels than before.
  obtain ⟨t, added⟩ : ∃ t : Store, t = { s with
    records := s.records ++ [i.record id title type status priority now]
    lastRecord := s.lastRecord + 1 } := ⟨_, rfl⟩
  have appended : t.records = s.records ++ [i.record id title type status priority now] := by rw [added]
  have records : ∀ other, t.record? other =
      if other = id then some (i.record id title type status priority now) else s.record? other :=
    fun other => record?_append absent appended
  have labelled : ∀ other, t.labelsOf other = s.labelsOf other := by
    intro other
    rw [added]
    rfl
  have sound : t.HasSoundLabels := intact.labels.congr (by rw [added]) (by rw [added])
  have linked : t.IsLinked := by
    rw [added]
    exact intact.linked
  obtain ⟨s', set⟩ : ∃ s', t.setLabels id i.labels = .ok s' :=
    exists_setLabels complete.labels (by simp [records])
  obtain ⟨tidy, kept⟩ := labelsOf_setLabels sound linked set
  obtain ⟨sameRecords, last, _⟩ := setLabels_evolves set
  have found : ∀ other, s'.record? other = t.record? other := by
    intro other
    rw [record?, sameRecords, record?]
  obtain ⟨kept', reads, back⟩ := issueOf_record titled typed inStatus prioritized now tidy
  refine ⟨s', kept', ?_, ?_, ?_, back, ?_⟩
  · refine insert_eq_ok.mpr ⟨title, type, status, priority, titled, typed, inStatus, prioritized,
      ⟨next, fits⟩, ?_⟩
    rw [← added, set]
  · rw [last, added]
  · exact find?_eq_ok_some.mpr ⟨fits, _, by rw [found, records, if_pos rfl], reads⟩
  · intro other apart
    refine find?_congr ?_ ?_
    · rw [found, records, if_neg apart]
    · rw [kept other apart, labelled]

end Store

/-! ## Projects -/

namespace Project

/-- An issue is stored in a file: under an id that no issue had, where it is found afterwards as it was
    kept.  Every other id is looked up as before. -/
structure Stores [Json.Nesting] (p : Project) (file : String) (i : Issue) (id : Int) (kept : Issue)
    (p' : Project) : Prop where
  answer : p.handle file (.insert i) = (.ok (.id id), p')
  isNew : p.handle file (.find id) = (.ok (.issue none), p)
  found : p'.handle file (.find id) = (.ok (.issue (some kept)), p')
  others : ∀ other, other ≠ id → (p'.handle file (.find other)).1 = (p.handle file (.find other)).1

variable {p : Project} {file : String} {s : Store} {i : Issue}

theorem handle_insert_full [Json.Nesting] (isReady : p.database file = .ready s)
    (full : ¬ fitsId (s.lastRecord + 1)) (i : Issue) : p.handle file (.insert i) = (.error (.store .full), p) := by
  have fails : (p.database file).insert i p.clock = .error .full := by
    rw [isReady]
    exact bind_eq_error.mpr (.inr ⟨s, rfl, bind_eq_error.mpr (.inl (Store.insert_full full p.clock))⟩)
  rw [handle, fails]
  rfl

theorem exists_stores [Json.Nesting] (isReady : p.database file = .ready s) (intact : s.IsIntact)
    (complete : i.IsComplete) (fits : fitsId (s.lastRecord + 1)) :
    ∃ kept s', let p' := p.setDatabase file (.ready s')
      p'.database file = .ready s' ∧ s'.IsIntact ∧ s'.lastRecord = s.lastRecord + 1 ∧
      p.Stores file i (s.lastRecord + 1) kept p' ∧ i.IsReadBack p.clock (s.lastRecord + 1) kept := by
  obtain ⟨s', kept, inserts, last, finds, back, others⟩ :=
    Store.exists_insert intact complete p.clock fits
  have after := database_setDatabase_self isReady (.ready s')
  refine ⟨kept, s', after, (Store.Change.inserted inserts).isIntact intact, last, ?_, back⟩
  refine ⟨?_, ?_, ?_, ?_⟩
  · have inserted : (p.database file).insert i p.clock = .ok (s.lastRecord + 1, .ready s') := by
      rw [isReady]
      exact Database.insert_eq_ok.mpr ⟨s, s', rfl, inserts, rfl⟩
    rw [handle, inserted]
    rfl
  · rw [handle_find isReady, Store.find?_of_absent intact.toIsConsistent.record?_next, if_pos fits]
    rfl
  · rw [handle_find after, finds]
    rfl
  · intro other apart
    rw [handle_find after, handle_find isReady, others other apart]

/-- Whatever was asked of a project before, checked or not: an issue that has a title, a type, a status and
    a priority, and no missing label, is stored as it is unless there is no id left.  It is read back to
    the second, with its labels tidied and its missing texts empty, and all other issues are read as
    before.  What was read back is stored again as it is, under the id after that. -/
theorem insert_readBack [Json.Nesting] (settings : SettingsFile) (clock : Moment)
    (before : List (String × Request)) (file : String) {s : Store}
    (tables : ((fresh settings clock).run before).2.database file = .ready s)
    {i : Issue} (complete : i.IsComplete) :
    let p := ((fresh settings clock).run before).2
    let id : Int := s.lastRecord + 1
    (¬ fitsId id ∧ p.handle file (.insert i) = (.error (.store .full), p)) ∨
      ∃ kept p', p.Stores file i id kept p' ∧ i.IsReadBack p.clock id kept ∧
        ((¬ fitsId (id + 1) ∧ p'.handle file (.insert kept) = (.error (.store .full), p')) ∨
          ∃ p'', p'.Stores file kept (id + 1) { kept with id := some (id + 1) } p'') := by
  intro p id
  by_cases fits : fitsId id
  · obtain ⟨kept, s', isReady, intact, last, stores, back⟩ :=
      exists_stores tables (isIntact_run tables) complete fits
    refine Or.inr ⟨kept, _, stores, back, ?_⟩
    have next : (s'.lastRecord : Int) = id := by
      rw [last]
      rfl
    by_cases more : fitsId (id + 1)
    · obtain ⟨kept', s'', _, _, _, stores', back'⟩ :=
        exists_stores isReady intact (back.isComplete complete) (next ▸ more)
      rw [back.again back', next] at stores'
      exact Or.inr ⟨_, stores'⟩
    · exact Or.inl ⟨more, handle_insert_full isReady (next ▸ more) kept⟩
  · exact Or.inl ⟨fits, handle_insert_full tables fits i⟩

private def labelled : List (String × Request) := [
  ("issues.db", .create { title := some "Crash", labels := .ofNames ["ui", "net"] }),
  ("./issues.db", .create { title := some "Freeze", labels := .ofNames ["ui"] })]

private def written : Moment := ⟨.first, ⟨10, 30, 0, 250000, by decide⟩, some ⟨7200000000, by decide⟩⟩

private def imported : Issue where
  title := some " Slow "
  description := none
  status := some "done"
  assignee := none
  branch := none
  labels := .ofNames [" ui", "", "net ", "ui", " "]
  createdAt := some written
  closedAt := some ⟨.first, ⟨10, 30, 1, 0, by decide⟩, none⟩

/-- An issue that shares its labels with two others: it keeps the blanks of its title and the offset of its
    creation, and was changed when it was created. -/
theorem insert_readBack_sharedLabels :
    let p := ((fresh .missing .earliest).run labelled).2
    (∃ s, p.database "issues.db" = .ready s) ∧ imported.IsComplete ∧
      ∃ kept p', p.Stores "issues.db" imported 3 kept p' ∧ kept.title = some " Slow " ∧
        kept.labels.Tidies [" ui", "", "net ", "ui", " "] ∧
        kept.createdAt = some written.wholeSecond ∧
        kept.updatedAt = kept.createdAt ∧
        ∃ p'', p'.Stores "issues.db" kept 4 { kept with id := some 4 } p'' := by
  have complete : imported.IsComplete := ⟨rfl, rfl, rfl, rfl, by decide⟩
  obtain ⟨s, tables⟩ : ∃ s, ((fresh .missing .earliest).run labelled).2.database "issues.db" = .ready s :=
    ⟨_, rfl⟩
  have two : s.lastRecord = 2 := by
    cases tables
    rfl
  have stores := insert_readBack .missing .earliest labelled "issues.db" tables complete
  rw [two] at stores
  refine ⟨⟨s, tables⟩, complete, ?_⟩
  rcases stores with ⟨full, _⟩ | ⟨kept, p', stored, back, ⟨full, _⟩ | ⟨p'', again⟩⟩
  · exact absurd (by decide) full
  · exact absurd (by decide) full
  · refine ⟨kept, p', stored, back.title, back.labels, ?_, ?_, p'', again⟩
    · have long : ∀ o, written.offset = some o → o.micros = 0 ∨ 1000000 ≤ o.micros.natAbs := by
        rintro o ⟨⟩
        exact Or.inr (by decide)
      exact back.createdAt.trans (congrArg some (Moment.asRead_eq_wholeSecond long))
    · rw [back.updatedAt]
      rfl

private def halfSecond : Moment := ⟨.first, .midnight, some ⟨500000, by decide⟩⟩

/-- An offset of half a second is not kept: it is read back as universal time. -/
theorem stores_halfSecond :
    ∃ i kept p', i.IsComplete ∧ i.createdAt = some halfSecond ∧
      (fresh .missing .earliest).Stores "issues.db" i 1 kept p' ∧
      kept.createdAt = some ⟨.first, .midnight, some .zero⟩ ∧
      kept.createdAt ≠ some halfSecond.wholeSecond := by
  have complete : Issue.IsComplete { title := some "Crash", createdAt := some halfSecond } :=
    ⟨rfl, rfl, rfl, rfl, by decide⟩
  have tables : (fresh .missing .earliest).database "issues.db" = .ready {} := rfl
  obtain ⟨kept, s', _, _, _, stores, back⟩ :=
    exists_stores tables Store.isIntact_empty complete (by decide)
  have created := back.createdAt
  refine ⟨_, kept, _, complete, rfl, stores, created, ?_⟩
  rw [created]
  decide

end Project

end IssueTracker
