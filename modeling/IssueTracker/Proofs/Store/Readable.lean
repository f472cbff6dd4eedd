import IssueTracker.Proofs.Store.Evolution

/-!
# Stores that can be read

Every time that a change stores can be read back (`Record.IsReadable`), whatever its arguments.  So
the issue that was created or changed is there when it is asked for next
(`Database.create_readable`, `Database.update_readable`, `Database.setStatus_readable`).
-/

namespace IssueTracker

/-- A stored text that can be read as a time. -/
def Store.IsTime (text : String) : Prop := ∃ t, readTime text = .ok t

theorem Store.isTime_isoSeconds (m : Moment) : IsTime m.isoSeconds := by
  rw [IsTime, readTime, Moment.ofIso?_of_ofIso m.ofIso_isoSeconds_eq]
  exact ⟨_, rfl⟩

/-- A record whose times can be read. -/
structure Record.IsReadable (r : Record) : Prop where
  createdAt : Store.IsTime r.createdAt
  updatedAt : Store.IsTime r.updatedAt
  closedAt : ∀ text, r.closedAt = some text → Store.IsTime text

/-- A record stays readable when its time of creation stays and the others can be read. -/
theorem Record.IsReadable.amend {r r' : Record} (readable : r.IsReadable)
    (createdAt : r'.createdAt = r.createdAt) {updated : Moment}
    (updatedAt : r'.updatedAt = updated.isoSeconds)
    (closedAt : ∀ text, r'.closedAt = some text → Store.IsTime text) : r'.IsReadable := by
  refine ⟨?_, ?_, closedAt⟩
  · rw [createdAt]
    exact readable.createdAt
  · rw [updatedAt]
    exact Store.isTime_isoSeconds updated

/-- The record of an issue can be read, whatever the issue. -/
theorem Issue.isReadable_record (i : Issue) (id : Int) (title type status priority : String)
    (now : Moment) : (i.record id title type status priority now).IsReadable := by
  refine ⟨Store.isTime_isoSeconds (i.createdAt.getD now), ?_, ?_⟩
  · rw [record]
    cases i.updatedAt with
    | none => exact Store.isTime_isoSeconds (i.createdAt.getD now)
    | some updated => exact Store.isTime_isoSeconds updated
  · intro text closes
    obtain ⟨closed, _, rfl⟩ := Option.map_eq_some_iff.mp closes
    exact Store.isTime_isoSeconds closed

namespace Store

def IsReadable (s : Store) : Prop := ∀ r ∈ s.records, r.IsReadable

theorem issueOf_readable (s : Store) {r : Record} (readable : r.IsReadable) :
    ∃ i, s.issueOf r = .ok i := by
  obtain ⟨created, createdAt⟩ := readable.createdAt
  obtain ⟨updated, updatedAt⟩ := readable.updatedAt
  have closedAt : ∃ closed, readTime r.closedAt = .ok closed := by
    cases closes : r.closedAt with
    | none => exact ⟨none, rfl⟩
    | some text => exact readable.closedAt text closes
  obtain ⟨closed, closedAt⟩ := closedAt
  rw [issueOf, createdAt, updatedAt, closedAt]
  exact ⟨_, rfl⟩

/-- A record that is there is found by an id that fits. -/
theorem find?_readable {s : Store} (readable : s.IsReadable) {id : Int} (fits : fitsId id)
    (there : (s.record? id).isSome) : ∃ i, s.find? id = .ok (some i) := by
  obtain ⟨r, found⟩ := Option.isSome_iff_exists.mp there
  obtain ⟨i, reads⟩ := s.issueOf_readable (readable r (List.mem_of_find?_eq_some found))
  rw [find?, if_pos fits, found]
  exact ⟨i, optionMapM_eq_ok_some.mpr ⟨r, rfl, reads⟩⟩

/-- An issue is found only under an id that fits, and in a record. -/
theorem of_find?_eq_some {s : Store} {id : Int} {i : Issue} (finds : s.find? id = .ok (some i)) :
    fitsId id ∧ (s.record? id).isSome := by
  rw [find?] at finds
  by_cases fits : fitsId id
  · rw [if_pos fits] at finds
    obtain ⟨r, found, _⟩ := optionMapM_eq_ok_some.mp finds
    exact ⟨fits, by rw [found]; rfl⟩
  · rw [if_neg fits] at finds
    cases finds

/-! ## Changes -/

/-- A change after which what could be read still can, and what was there is. -/
structure Keeps (s s' : Store) : Prop where
  readable : s.IsReadable → s'.IsReadable
  there : ∀ id, (s.record? id).isSome → (s'.record? id).isSome

variable {s s' t : Store} {now : Moment} {id : Int}

theorem Keeps.trans (first : s.Keeps t) (second : t.Keeps s') : s.Keeps s' :=
  ⟨second.readable ∘ first.readable, fun id => second.there id ∘ first.there id⟩

theorem keeps_setLabels {labels : LabelList} (set : s.setLabels id labels = .ok s') : s.Keeps s' := by
  obtain ⟨records, _⟩ := setLabels_evolves set
  constructor
  · intro readable r member
    rw [records] at member
    exact readable r member
  · intro other there
    rw [record?, records]
    exact there

/-- A change of the records with an id keeps them if it keeps their id and leaves times that can be
    read. -/
theorem keeps_modify {change : Record → Record} (keepsId : ∀ r, (change r).id = r.id)
    (readable : s.IsReadable → ∀ r ∈ s.records, (change r).IsReadable) : s.Keeps (s.modify id change) := by
  constructor
  · intro before r' member
    obtain ⟨r, old, rfl⟩ := List.mem_map.mp member
    by_cases there : r.id = id
    · rw [if_pos there]
      exact readable before r old
    · rw [if_neg there]
      exact before r old
  · intro other there
    rw [record?, List.find?_isSome] at there ⊢
    obtain ⟨r, old, same⟩ := there
    refine ⟨_, List.mem_map.mpr ⟨r, old, rfl⟩, ?_⟩
    by_cases changes : r.id = id
    · rw [if_pos changes, keepsId]
      exact same
    · rw [if_neg changes]
      exact same

theorem keeps_insert {i : Issue} (inserts : s.insert i now = .ok (id, s')) :
    s.Keeps s' ∧ fitsId id ∧ (s'.record? id).isSome := by
  obtain ⟨title, type, status, priority, _, _, _, _, ⟨rfl, fits⟩, set⟩ := insert_eq_ok.mp inserts
  have labelled := keeps_setLabels set
  have appended (other : Int) (there : (s.record? other).isSome ∨ other = s.lastRecord + 1) :
      (Store.record? { s with
        records := s.records ++ [i.record (s.lastRecord + 1) title type status priority now]
        lastRecord := s.lastRecord + 1 } other).isSome := by
    rw [record?, List.find?_append]
    rcases there with old | rfl
    · rw [Option.isSome_or]
      exact Bool.or_eq_true_iff.mpr (Or.inl old)
    · simp [Issue.record]
  refine ⟨Keeps.trans ⟨?_, fun other there => appended other (Or.inl there)⟩ labelled, fits,
    labelled.there _ (appended _ (Or.inr rfl))⟩
  intro readable r member
  rcases List.mem_append.mp member with old | new
  · exact readable r old
  · rw [List.mem_singleton.mp new]
    exact i.isReadable_record ..

theorem keeps_update {assignments : List Assignment} {labels : LabelList}
    (updates : s.update id assignments labels now = .ok s') : s.Keeps s' := by
  obtain ⟨t, modified, set⟩ := update_eq_ok updates
  have keeps : s.Keeps t := by
    rw [modified]
    refine keeps_modify (fun r => (r.assign_frame assignments).1) fun readable r member => ?_
    obtain ⟨_, _, created, closed⟩ := r.assign_frame assignments
    refine (readable r member).amend created (rfl : _ = now.isoSeconds) fun text closes => ?_
    exact (readable r member).closedAt text (closed.symm.trans closes)
  rcases set with ⟨_, rfl⟩ | ⟨_, set⟩
  · exact keeps
  · exact keeps.trans (keeps_setLabels set)

theorem keeps_setStatus {status : Option String} {previous : String}
    (sets : s.setStatus id status now = .ok (previous, s')) : s.Keeps s' := by
  obtain ⟨found, word, isFound, _, rfl⟩ := setStatus_eq_ok sets
  refine keeps_modify (fun r => rfl) fun readable r member => ?_
  refine (readable r member).amend rfl (rfl : _ = now.isoSeconds) fun text closes => ?_
  obtain ⟨_, same⟩ := Option.ite_none_right_eq_some.mp closes
  cases before : found.closedAt with
  | none =>
    rw [before] at same
    rw [← Option.some.inj same]
    exact isTime_isoSeconds now
  | some earlier =>
    rw [before] at same
    rw [← Option.some.inj same]
    exact (readable found (List.mem_of_find?_eq_some isFound)).closedAt earlier before

theorem readable_delete {found : Bool} (deletes : s.delete id = .ok (found, s'))
    (readable : s.IsReadable) : s'.IsReadable := by
  obtain ⟨_, _, rfl⟩ := delete_eq_ok.mp deletes
  cases found with
  | false => exact readable
  | true => exact fun r member => readable r (List.mem_filter.mp member).1

end Store

/-! ## Databases -/

namespace Database

/-- A database whose store, if it has one, can be read. -/
def IsReadable (db : Database) : Prop := ∀ s, db = ready s → s.IsReadable

variable {db db' : Database} {now : Moment} {id : Int}

/-- An issue that is there before a change that keeps the records is there after it. -/
theorem get_keeps {s s' : Store} (keeps : s.Keeps s') (readable : s.IsReadable) {i : Issue}
    (before : (ready s).get id = .ok i) : ∃ i', (ready s').get id = .ok i' := by
  obtain ⟨_, same, finds⟩ := get_eq_ok.mp before
  cases same
  obtain ⟨fits, there⟩ := Store.of_find?_eq_some finds
  obtain ⟨i', finds'⟩ := Store.find?_readable (keeps.readable readable) fits (keeps.there id there)
  exact ⟨i', get_eq_ok.mpr ⟨s', rfl, finds'⟩⟩

theorem isReadable_createTables (readable : db.IsReadable) (creates : db.createTables = .ok db') :
    db'.IsReadable := by
  rintro s rfl
  cases db with
  | unreachable => cases creates
  | foreign => cases creates
  | blank =>
    cases creates
    exact fun r member => absurd member List.not_mem_nil
  | ready s =>
    cases creates
    exact readable s rfl

/-- What is inserted can be read. -/
theorem insert_readable {i : Issue} (readable : db.IsReadable)
    (inserts : db.insert i now = .ok (id, db')) : db'.IsReadable ∧ ∃ i', db'.get id = .ok i' := by
  obtain ⟨s, s', isReady, stores, rfl⟩ := insert_eq_ok.mp inserts
  obtain ⟨keeps, fits, there⟩ := Store.keeps_insert stores
  have after := keeps.readable (readable s isReady)
  obtain ⟨i', finds⟩ := Store.find?_readable after fits there
  refine ⟨?_, i', get_eq_ok.mpr ⟨s', rfl, finds⟩⟩
  rintro _ ⟨⟩
  exact after

theorem create_readable {n : NewIssue} (readable : db.IsReadable)
    (creates : db.create n now = .ok (id, db')) : db'.IsReadable ∧ ∃ i, db'.get id = .ok i := by
  obtain ⟨s, s', i, isReady, _, inserts, isAfter⟩ := create_eq_ok.mp creates
  exact insert_readable readable (insert_eq_ok.mpr ⟨s, s', isReady, inserts, isAfter⟩)

theorem update_readable {c : Changes} (readable : db.IsReadable)
    (updates : db.update id c now = .ok db') : db'.IsReadable ∧ ∃ i, db'.get id = .ok i := by
  obtain ⟨s, s', i, _, rfl, finds, _, changes, rfl⟩ := update_eq_ok.mp updates
  have keeps := Store.keeps_update changes
  refine ⟨?_, get_keeps keeps (readable s rfl) (get_eq_ok.mpr ⟨s, rfl, finds⟩)⟩
  rintro _ ⟨⟩
  exact keeps.readable (readable s rfl)

theorem assign_readable {fields : List (String × Option String)} {labels : LabelList}
    (readable : db.IsReadable) (assigns : db.assign id fields labels now = .ok db') :
    db'.IsReadable := by
  obtain ⟨s, s', _, isReady, _, changes, rfl⟩ := assign_eq_ok.mp assigns
  rintro _ ⟨⟩
  exact (Store.keeps_update changes).readable (readable s isReady)

theorem assignStatus_readable {status : Option String} {previous : String} (readable : db.IsReadable)
    (assigns : db.assignStatus id status now = .ok (previous, db')) :
    db'.IsReadable ∧ ∀ i, db.get id = .ok i → ∃ i', db'.get id = .ok i' := by
  obtain ⟨s, s', rfl, sets, rfl⟩ := assignStatus_eq_ok.mp assigns
  have keeps := Store.keeps_setStatus sets
  refine ⟨?_, fun i before => get_keeps keeps (readable s rfl) before⟩
  rintro _ ⟨⟩
  exact keeps.readable (readable s rfl)

theorem setStatus_readable {status : Option String} (readable : db.IsReadable)
    (sets : db.setStatus id status now = .ok db') : db'.IsReadable ∧ ∃ i, db'.get id = .ok i := by
  obtain ⟨s, s', i, _, _, rfl, _, finds, moves, rfl⟩ := setStatus_eq_ok.mp sets
  obtain ⟨after, answers⟩ := assignStatus_readable readable (assignStatus_eq_ok.mpr ⟨s, s', rfl, moves, rfl⟩)
  exact ⟨after, answers i (get_eq_ok.mpr ⟨s, rfl, finds⟩)⟩

/-- A removal that finds no issue changes nothing. -/
theorem remove_readable {found : Bool} (readable : db.IsReadable)
    (removes : db.remove id = .ok (found, db')) :
    db'.IsReadable ∧ (found = false → ∃ s, db = ready s ∧ db' = ready s) := by
  obtain ⟨s, s', rfl, deletes, rfl⟩ := remove_eq_ok.mp removes
  constructor
  · rintro _ ⟨⟩
    exact Store.readable_delete deletes (readable s rfl)
  · rintro rfl
    obtain ⟨_, _, same⟩ := Store.delete_eq_ok.mp deletes
    exact ⟨s, rfl, congrArg ready same⟩

end Database

end IssueTracker
