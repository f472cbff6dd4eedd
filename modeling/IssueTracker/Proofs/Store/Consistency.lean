import IssueTracker.Proofs.Store.Readable

/-!
# Tables that hold together

Whatever is asked of a database, checked or not, makes one of four changes of its store
(`Database.Change`).  Each keeps what holds the tables together: the ids of records ascend, names and ids
of labels are unique, and each attachment is of an issue that is there (`Store.IsConsistent`).  No change
takes a label away, also when no issue has it any more (`Store.Change.labels_subset`).
-/

namespace IssueTracker

namespace Store

def ids (s : Store) : List Int := s.records.map (·.id)

/-- What a change that succeeds makes of a store. -/
inductive Change (s : Store) : Store → Prop
  | inserted {i : Issue} {now : Moment} {id : Int} {s' : Store}
      (inserts : s.insert i now = .ok (id, s')) : Change s s'
  | updated {id : Int} {assignments : List Assignment} {labels : LabelList} {now : Moment} {s' : Store}
      (updates : s.update id assignments labels now = .ok s') : Change s s'
  | moved {id : Int} {status : Option String} {now : Moment} {previous : String} {s' : Store}
      (moves : s.setStatus id status now = .ok (previous, s')) : Change s s'
  | deleted {id : Int} {found : Bool} {s' : Store} (deletes : s.delete id = .ok (found, s')) : Change s s'

/-- What holds the tables together. -/
structure IsConsistent (s : Store) : Prop where
  ascending : s.ids.Pairwise (· < ·)
  bound : ∀ id ∈ s.ids, id ≤ s.lastRecord
  fits : ∀ id ∈ s.ids, fitsId id
  labels : s.HasSoundLabels
  attached : ∀ a ∈ s.attachments, a.issue ∈ s.ids
  once : s.attachments.Nodup

theorem isConsistent_empty : ({} : Store).IsConsistent :=
  ⟨by simp [ids], by simp [ids], by simp [ids], isSound_empty.labels, by simp, by simp⟩

section
variable {s s' : Store} {issue : Int}

theorem mem_ids_iff : issue ∈ s.ids ↔ (s.record? issue).isSome := by
  simp [ids, record?]

theorem notMem_ids_iff : issue ∉ s.ids ↔ s.record? issue = none := by
  rw [mem_ids_iff, Option.not_isSome_iff_eq_none]

/-! ## Labels -/

theorem ensureLabel_attachments (s : Store) (name : String) :
    (s.ensureLabel name).2.attachments = s.attachments := by
  rw [ensureLabel]
  split <;> rfl

theorem subset_ensureLabel (s : Store) (name : String) :
    s.labels ⊆ (s.ensureLabel name).2.labels := by
  rw [ensureLabel]
  split
  · exact List.Subset.refl _
  · exact List.subset_append_left _ _

theorem attach_attachments (s : Store) (issue : Int) (name : String) :
    (s.attach issue name).attachments = s.attachments ∨
      ∃ label, ⟨issue, label⟩ ∉ s.attachments ∧
        (s.attach issue name).attachments = s.attachments ++ [⟨issue, label⟩] := by
  have kept := s.ensureLabel_attachments name
  simp only [attach]
  split
  · exact Or.inl kept
  · rename_i absent
    refine Or.inr ⟨(s.ensureLabel name).1, ?_, by rw [kept]⟩
    simpa [isAttached, kept] using absent

theorem subset_attach (s : Store) (issue : Int) (name : String) :
    s.labels ⊆ (s.attach issue name).labels := by
  have subset := s.subset_ensureLabel name
  rcases s.attach_cases issue name with same | more
  · rw [same]; exact subset
  · rw [more]; exact subset

/-- What holds without the labels of an issue, and is kept by attaching each of the names, holds of the
    store that gives it these names. -/
theorem relabel_induction {motive : Store → Prop} {names : List String}
    (start : motive (s.detachAll issue))
    (attach : ∀ t, ∀ name ∈ names, motive t → motive (t.attach issue name)) :
    motive (s.relabel issue names) := by
  rw [relabel]
  generalize s.detachAll issue = t at start
  induction names generalizing t with
  | nil => exact start
  | cons name names ih =>
    refine ih (fun t other member => attach t other (List.mem_cons_of_mem _ member)) _ ?_
    exact attach t name List.mem_cons_self start

theorem relabel_ids (s : Store) (issue : Int) (names : List String) :
    (s.relabel issue names).ids = s.ids := by
  rw [ids, (s.relabel_records issue names).1, ids]

theorem subset_relabel (s : Store) (issue : Int) (names : List String) :
    s.labels ⊆ (s.relabel issue names).labels := by
  refine relabel_induction (motive := fun t => s.labels ⊆ t.labels) (List.Subset.refl _) ?_
  exact fun t name _ subset => List.Subset.trans subset (t.subset_attach issue name)

/-- Labels are attached only to issues that are there. -/
theorem IsConsistent.relabel (consistent : s.IsConsistent) {names : List String}
    (proper : ∀ name ∈ names, IsName name) (there : names = [] ∨ issue ∈ s.ids) :
    (s.relabel issue names).IsConsistent := by
  have same := s.relabel_ids issue names
  refine ⟨?_, ?_, ?_, consistent.labels.relabel issue proper, ?_, ?_⟩
  · rw [same]
    exact consistent.ascending
  · rw [same, (s.relabel_records issue names).2]
    exact consistent.bound
  · rw [same]
    exact consistent.fits
  · rw [same]
    -- An attachment is added only for one of the names, and then the issue is there.
    refine relabel_induction (motive := fun t => ∀ a ∈ t.attachments, a.issue ∈ s.ids) ?_ ?_
    · exact fun a member => consistent.attached a (List.mem_filter.mp member).1
    · intro t name given before a member
      rcases t.attach_attachments issue name with kept | ⟨label, _, added⟩
      · exact before a (kept ▸ member)
      · rw [added, List.mem_append, List.mem_singleton] at member
        rcases member with old | rfl
        · exact before a old
        · rcases there with none | there
          · simp [none] at given
          · exact there
  · refine relabel_induction (motive := fun t => t.attachments.Nodup) (consistent.once.filter _) ?_
    intro t name _ before
    rcases t.attach_attachments issue name with kept | ⟨label, absent, added⟩
    · rw [kept]
      exact before
    · rw [added]
      exact List.Nodup.append before (by simp) (by simpa using absent)

theorem IsConsistent.setLabels (consistent : s.IsConsistent) {labels : LabelList}
    (set : s.setLabels issue labels = .ok s') : s'.IsConsistent := by
  obtain ⟨names, normal, there, rfl⟩ := setLabels_eq_ok.mp set
  obtain ⟨given, _, rfl⟩ := normalizeLabels_eq_some.mp normal
  exact consistent.relabel (fun name member => isName_of_mem_labelNames member)
    (there.imp_right mem_ids_iff.mpr)

theorem subset_setLabels {labels : LabelList} (set : s.setLabels issue labels = .ok s') :
    s.labels ⊆ s'.labels := by
  obtain ⟨names, _, _, rfl⟩ := setLabels_eq_ok.mp set
  exact s.subset_relabel issue names

end

/-! ## Changes -/

section
variable {s s' : Store} {id : Int} {now : Moment}

/-- A change of the records with an id keeps the tables together if it keeps their id. -/
theorem IsConsistent.modify (consistent : s.IsConsistent) {change : Record → Record}
    (keepsId : ∀ r, (change r).id = r.id) (id : Int) : (s.modify id change).IsConsistent := by
  have same : (s.modify id change).ids = s.ids := by
    rw [ids, Store.modify, ids, List.map_map]
    refine List.map_congr_left fun r _ => ?_
    by_cases there : r.id = id
    · simp [there, keepsId]
    · simp [there]
  refine ⟨?_, ?_, ?_, consistent.labels.congr rfl rfl, ?_, consistent.once⟩
  · rw [same]
    exact consistent.ascending
  · rw [same]
    exact consistent.bound
  · rw [same]
    exact consistent.fits
  · rw [same]
    exact consistent.attached

theorem IsConsistent.insert (consistent : s.IsConsistent) {i : Issue}
    (inserts : s.insert i now = .ok (id, s')) : s'.IsConsistent := by
  obtain ⟨title, type, status, priority, _, _, _, _, ⟨rfl, fits⟩, set⟩ := insert_eq_ok.mp inserts
  refine IsConsistent.setLabels ?_ set
  have same : ids { s with
      records := s.records ++ [i.record (s.lastRecord + 1) title type status priority now]
      lastRecord := s.lastRecord + 1 } = s.ids ++ [(s.lastRecord : Int) + 1] := by
    simp [ids, Issue.record]
  refine ⟨?_, ?_, ?_, consistent.labels.congr rfl rfl, ?_, consistent.once⟩
  · rw [same, List.pairwise_append]
    -- Ids are given out in turn, those of deleted records too, so the new one is the greatest.
    refine ⟨consistent.ascending, by simp, fun old member new single => ?_⟩
    have bound := consistent.bound old member
    rw [List.mem_singleton.mp single]
    omega
  · intro other member
    rw [same, List.mem_append, List.mem_singleton] at member
    rcases member with old | rfl
    · have bound := consistent.bound other old
      push_cast
      omega
    · push_cast
      omega
  · intro other member
    rw [same, List.mem_append, List.mem_singleton] at member
    rcases member with old | rfl
    · exact consistent.fits other old
    · exact fits
  · intro a member
    rw [same]
    exact List.mem_append_left _ (consistent.attached a member)

theorem IsConsistent.delete (consistent : s.IsConsistent) {found : Bool}
    (deletes : s.delete id = .ok (found, s')) : s'.IsConsistent := by
  obtain ⟨_, _, rfl⟩ := delete_eq_ok.mp deletes
  cases found with
  | false => exact consistent
  | true =>
    have fewer : (ids { s.detachAll id with records := s.records.filter (·.id != id) }).Sublist s.ids :=
      List.filter_sublist.map _
    refine ⟨consistent.ascending.sublist fewer, ?_, ?_, consistent.labels.congr rfl rfl, ?_,
      consistent.once.filter _⟩
    · exact fun other member => consistent.bound other (fewer.subset member)
    · exact fun other member => consistent.fits other (fewer.subset member)
    -- What is left attached is of another issue, so its record is not the deleted one.
    intro a member
    obtain ⟨old, other⟩ := List.mem_filter.mp member
    obtain ⟨r, there, same⟩ := List.mem_map.mp (consistent.attached a old)
    refine List.mem_map.mpr ⟨r, List.mem_filter.mpr ⟨there, ?_⟩, same⟩
    rw [same]
    exact other

namespace Change

theorem isConsistent (change : s.Change s') (consistent : s.IsConsistent) : s'.IsConsistent := by
  cases change with
  | inserted inserts => exact consistent.insert inserts
  | updated updates =>
    obtain ⟨t, modified, set⟩ := update_eq_ok updates
    have before : t.IsConsistent := by
      rw [modified]
      refine consistent.modify ?_ _
      exact fun r => (r.assign_frame _).1
    rcases set with ⟨_, rfl⟩ | ⟨_, set⟩
    · exact before
    · exact before.setLabels set
  | moved moves =>
    obtain ⟨_, _, _, _, rfl⟩ := setStatus_eq_ok moves
    refine consistent.modify ?_ _
    exact fun r => rfl
  | deleted deletes => exact consistent.delete deletes

/-- Labels stay, whether they are in use or not. -/
theorem labels_subset (change : s.Change s') : s.labels ⊆ s'.labels := by
  cases change with
  | inserted inserts =>
    obtain ⟨_, _, _, _, _, _, _, _, _, set⟩ := insert_eq_ok.mp inserts
    have subset := subset_setLabels set
    exact subset
  | updated updates =>
    obtain ⟨t, modified, set⟩ := update_eq_ok updates
    have same : t.labels = s.labels := by rw [modified, modify]
    rcases set with ⟨_, rfl⟩ | ⟨_, set⟩
    · rw [same]
      exact List.Subset.refl _
    · rw [← same]
      exact subset_setLabels set
  | moved moves =>
    obtain ⟨_, _, _, _, rfl⟩ := setStatus_eq_ok moves
    exact List.Subset.refl _
  | @deleted _ found _ deletes =>
    obtain ⟨_, _, rfl⟩ := delete_eq_ok.mp deletes
    cases found <;> exact List.Subset.refl _

end Change

end

end Store

/-! ## Databases -/

namespace Database

/-- What an operation makes of a database: its tables, or a change of its store. -/
inductive Change : Database → Database → Prop
  | tables : Change blank (ready {})
  | store {s s' : Store} (change : s.Change s') : Change (ready s) (ready s')

variable {db db' : Database} {now : Moment} {id : Int}

theorem createTables_changes (creates : db.createTables = .ok db') : db' = db ∨ db.Change db' := by
  cases db with
  | unreachable => cases creates
  | foreign => cases creates
  | blank =>
    cases creates
    exact Or.inr .tables
  | ready s =>
    cases creates
    exact Or.inl rfl

theorem insert_changes {i : Issue} (inserts : db.insert i now = .ok (id, db')) : db.Change db' := by
  obtain ⟨s, s', rfl, stores, rfl⟩ := insert_eq_ok.mp inserts
  exact .store (.inserted stores)

theorem create_changes {n : NewIssue} (creates : db.create n now = .ok (id, db')) : db.Change db' := by
  obtain ⟨s, s', _, rfl, _, stores, rfl⟩ := create_eq_ok.mp creates
  exact .store (.inserted stores)

theorem assign_changes {fields : List (String × Option String)} {labels : LabelList}
    (assigns : db.assign id fields labels now = .ok db') : db.Change db' := by
  obtain ⟨s, s', _, rfl, _, updates, rfl⟩ := assign_eq_ok.mp assigns
  exact .store (.updated updates)

theorem update_changes {c : Changes} (updates : db.update id c now = .ok db') : db.Change db' := by
  obtain ⟨s, s', _, _, rfl, _, _, changes, rfl⟩ := update_eq_ok.mp updates
  exact .store (.updated changes)

theorem assignStatus_changes {status : Option String} {previous : String}
    (assigns : db.assignStatus id status now = .ok (previous, db')) : db.Change db' := by
  obtain ⟨s, s', rfl, moves, rfl⟩ := assignStatus_eq_ok.mp assigns
  exact .store (.moved moves)

theorem setStatus_changes {status : Option String} (sets : db.setStatus id status now = .ok db') :
    db.Change db' := by
  obtain ⟨s, s', _, _, _, rfl, _, _, moves, rfl⟩ := setStatus_eq_ok.mp sets
  exact .store (.moved moves)

theorem remove_changes {found : Bool} (removes : db.remove id = .ok (found, db')) : db.Change db' := by
  obtain ⟨s, s', rfl, deletes, rfl⟩ := remove_eq_ok.mp removes
  exact .store (.deleted deletes)

theorem delete_changes (deletes : db.delete id = .ok db') : db.Change db' :=
  remove_changes (delete_eq_ok.mp deletes)

end Database

end IssueTracker
