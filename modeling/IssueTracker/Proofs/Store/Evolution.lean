import Mathlib.Data.List.Nodup
import IssueTracker.Proofs.Store.Labels
import IssueTracker.Proofs.Store.Record

/-!
# What an operation makes of a store

What a successful operation on a database checks, and which change of its store it makes, is said once for
each (`Database.update_eq_ok` and its like).  On issues it creates one record under the next id, revises
the record with some id, or deletes it (`Store.Evolves`).  That is all that the invariant of the store
needs to know of the operations (`Store.IsSound.evolve`).
-/

namespace IssueTracker

/-- A record that was created at a moment: its work has not ended, and all its times are that
    moment. -/
structure Record.IsFresh (now : Moment) (r : Record) : Prop where
  proper : r.HasProperTexts
  createdAt : r.createdAt = now.isoSeconds
  updatedAt : r.updatedAt = now.isoSeconds
  closedAt : r.closedAt = none
  isOpen : isClosing r.status = false

theorem Record.IsFresh.times {now : Moment} {r : Record} (fresh : r.IsFresh now)
    (naive : now.isNaive) : r.Times now now none where
  createdAt := fresh.createdAt
  updatedAt := fresh.updatedAt
  closedAt := fresh.closedAt
  isClosed := fresh.isOpen.symm
  createdNaive := naive
  updatedNaive := naive
  closedNaive := rfl

namespace Store

/-- What a successful operation at a moment makes of a store, and the id that it hands out. -/
inductive Evolves (s : Store) (now : Moment) : Option Int → Store → Prop
  | created {s' : Store} {r : Record} (fresh : r.IsFresh now) (id : r.id = s.lastRecord + 1)
      (records : s'.records = s.records ++ [r]) (last : s'.lastRecord = s.lastRecord + 1)
      (labels : s.HasSoundLabels → s'.HasSoundLabels) : Evolves s now (some r.id) s'
  | revised {s' : Store} {id : Int} {change : Record → Record}
      (revises : ∀ r ∈ s.records, r.id = id → r.Revises now (change r))
      (records : s'.records = s.records.map fun r => if r.id = id then change r else r)
      (last : s'.lastRecord = s.lastRecord)
      (labels : s.HasSoundLabels → s'.HasSoundLabels) : Evolves s now none s'
  | deleted {s' : Store} {id : Int} (records : s'.records = s.records.filter (·.id != id))
      (last : s'.lastRecord = s.lastRecord)
      (labels : s.HasSoundLabels → s'.HasSoundLabels) : Evolves s now none s'

namespace Evolves
variable {s s' : Store} {now : Moment} {created : Option Int}

theorem labels (evolves : s.Evolves now created s') (sound : s.HasSoundLabels) :
    s'.HasSoundLabels := by
  cases evolves with
  | created _ _ _ _ labels => exact labels sound
  | revised _ _ _ labels => exact labels sound
  | deleted _ _ labels => exact labels sound

/-- The last id given does not go back, and moves past it when an id is handed out. -/
theorem lastRecord_le (evolves : s.Evolves now created s') : s.lastRecord ≤ s'.lastRecord := by
  cases evolves with
  | created _ _ _ last _ => omega
  | revised _ _ last _ => omega
  | deleted _ last _ => omega

/-- An id that is handed out is the last one given. -/
theorem created_eq {id : Int} (evolves : s.Evolves now (some id) s') :
    id = s.lastRecord + 1 ∧ s'.lastRecord = s.lastRecord + 1 := by
  cases evolves with
  | created _ isId _ last _ => exact ⟨isId, last⟩

/-- Where a record of the store afterwards comes from. -/
theorem origin (evolves : s.Evolves now created s') {r' : Record} (member : r' ∈ s'.records) :
    r' ∈ s.records ∨ (∃ r ∈ s.records, r.Revises now r') ∨
      r'.IsFresh now ∧ created = some r'.id := by
  cases evolves with
  | @created _ r fresh id records last labels =>
    rw [records, List.mem_append, List.mem_singleton] at member
    rcases member with old | rfl
    · exact Or.inl old
    · exact Or.inr (Or.inr ⟨fresh, rfl⟩)
  | @revised _ id change revises records last labels =>
    rw [records] at member
    obtain ⟨r, old, rfl⟩ := List.mem_map.mp member
    by_cases there : r.id = id
    · rw [if_pos there]
      exact Or.inr (Or.inl ⟨r, old, revises r old there⟩)
    · rw [if_neg there]
      exact Or.inl old
  | @deleted _ id records last labels =>
    rw [records] at member
    exact Or.inl (List.mem_filter.mp member).1

end Evolves

/-- Labels that were set are sound. -/
theorem setLabels_evolves {s s' : Store} {issue : Int} {labels : LabelList}
    (set : s.setLabels issue labels = .ok s') :
    s'.records = s.records ∧ s'.lastRecord = s.lastRecord ∧
      (s.HasSoundLabels → s'.HasSoundLabels) := by
  obtain ⟨names, normal, _, rfl⟩ := setLabels_eq_ok.mp set
  obtain ⟨given, _, rfl⟩ := normalizeLabels_eq_some.mp normal
  obtain ⟨records, last⟩ := s.relabel_records issue (labelNames (given.map String.toList))
  exact ⟨records, last, fun sound =>
    sound.relabel issue fun name member => isName_of_mem_labelNames member⟩

end Store

/-! ## Changes of the store -/

theorem needed_eq_ok {column text : String} {value : Option String} :
    Store.needed column value = .ok text ↔ value = some text := by
  cases value <;> simp [Store.needed]

/-- The record in which an issue with these texts is stored. -/
def Issue.record (i : Issue) (id : Int) (title type status priority : String) (now : Moment) :
    Record where
  id := id
  title := title
  description := i.description.getD ""
  type := type
  status := status
  priority := priority
  assignee := i.assignee.getD ""
  branch := i.branch.getD ""
  createdAt := (i.createdAt.getD now).isoSeconds
  updatedAt := (i.updatedAt.map Moment.isoSeconds).getD (i.createdAt.getD now).isoSeconds
  closedAt := i.closedAt.map Moment.isoSeconds

namespace Store
variable {s s' : Store} {now : Moment}

theorem nextId_eq_ok {id : Int} : s.nextId = .ok id ↔ s.lastRecord + 1 = id ∧ fitsId id := by
  rw [nextId]
  by_cases fits : fitsId (s.lastRecord + 1)
  · rw [if_pos fits, Except.ok.injEq]
    constructor
    · rintro rfl
      exact ⟨rfl, fits⟩
    · exact And.left
  · rw [if_neg fits]
    constructor
    · intro failed
      cases failed
    · rintro ⟨rfl, holds⟩
      exact absurd holds fits

/-- An issue is stored when there is a next id, no column that needs a value is left without, and its
    labels can be set. -/
theorem insert_eq_ok {i : Issue} {id : Int} :
    s.insert i now = .ok (id, s') ↔ ∃ title type status priority,
      i.title = some title ∧ i.type = some type ∧ i.status = some status ∧
      i.priority = some priority ∧ (s.lastRecord + 1 = id ∧ fitsId id) ∧
      { s with
        records := s.records ++ [i.record id title type status priority now]
        lastRecord := s.lastRecord + 1 }.setLabels id i.labels = .ok s' := by
  constructor
  · intro run
    obtain ⟨next, isNext, run⟩ := bind_eq_ok.mp run
    obtain ⟨title, titleGiven, run⟩ := bind_eq_ok.mp run
    obtain ⟨type, typeGiven, run⟩ := bind_eq_ok.mp run
    obtain ⟨status, statusGiven, run⟩ := bind_eq_ok.mp run
    obtain ⟨priority, priorityGiven, run⟩ := bind_eq_ok.mp run
    obtain ⟨t, set, run⟩ := bind_eq_ok.mp run
    cases run
    exact ⟨title, type, status, priority, needed_eq_ok.mp titleGiven, needed_eq_ok.mp typeGiven,
      needed_eq_ok.mp statusGiven, needed_eq_ok.mp priorityGiven, nextId_eq_ok.mp isNext, set⟩
  · rintro ⟨title, type, status, priority, titleGiven, typeGiven, statusGiven, priorityGiven, isNext, set⟩
    refine bind_eq_ok.mpr ⟨id, nextId_eq_ok.mpr isNext, ?_⟩
    refine bind_eq_ok.mpr ⟨title, needed_eq_ok.mpr titleGiven, ?_⟩
    refine bind_eq_ok.mpr ⟨type, needed_eq_ok.mpr typeGiven, ?_⟩
    refine bind_eq_ok.mpr ⟨status, needed_eq_ok.mpr statusGiven, ?_⟩
    refine bind_eq_ok.mpr ⟨priority, needed_eq_ok.mpr priorityGiven, ?_⟩
    exact bind_eq_ok.mpr ⟨s', set, rfl⟩

/-- A deletion takes the record with the id away with its attachments, if there is one. -/
theorem delete_eq_ok {id : Int} {found : Bool} :
    s.delete id = .ok (found, s') ↔ fitsId id ∧ (s.record? id).isSome = found ∧
      s' = if found then { s.detachAll id with records := s.records.filter (·.id != id) } else s := by
  rw [delete]
  by_cases fits : fitsId id
  · cases there : (s.record? id).isSome <;> cases found <;> simp [fits, eq_comm]
  · simp [fits]

/-- A successful update assigns the values to the record with the id, and sets the labels if there is
    a list of them. -/
theorem update_eq_ok {id : Int} {assignments : List Assignment} {labels : LabelList}
    (run : s.update id assignments labels now = .ok s') :
    ∃ t, t = s.modify id (fun r => { r.assign assignments with updatedAt := now.isoSeconds }) ∧
      (labels = none ∧ t = s' ∨ labels ≠ none ∧ t.setLabels id labels = .ok s') := by
  rw [update] at run
  split at run
  · cases run
  · refine ⟨_, rfl, ?_⟩
    dsimp only at run
    split at run
    · cases run
    · cases labels with
      | none =>
        cases run
        exact Or.inl ⟨rfl, rfl⟩
      | some names => exact Or.inr ⟨by simp, run⟩

/-- A successful change of status finds the record. -/
theorem setStatus_eq_ok {id : Int} {status : Option String} {previous : String}
    (run : s.setStatus id status now = .ok (previous, s')) :
    ∃ r word, s.record? id = some r ∧ status = some word ∧ s' = s.modify id fun r' => { r' with
      status := word
      closedAt := if isClosing word then some (r.closedAt.getD now.isoSeconds) else none
      updatedAt := now.isoSeconds } := by
  rw [setStatus] at run
  split at run
  · cases run
  · dsimp only at run
    split at run
    · cases run
    · rename_i r found
      obtain ⟨word, given, run⟩ := bind_eq_ok.mp run
      cases run
      exact ⟨r, word, found, needed_eq_ok.mp given, rfl⟩

/-- Where ids are unique, a record is found by its id. -/
theorem record?_eq_some (distinct : (s.records.map (·.id)).Nodup) {id : Int} {r : Record} :
    s.record? id = some r ↔ r ∈ s.records ∧ r.id = id := by
  constructor
  · intro found
    exact ⟨List.mem_of_find?_eq_some found, by simpa using List.find?_some found⟩
  · rintro ⟨member, rfl⟩
    cases found : s.record? r.id with
    | none => simpa using List.find?_eq_none.mp found r member
    | some other =>
      have same : other.id = r.id := by simpa using List.find?_some found
      rw [List.inj_on_of_nodup_map distinct (List.mem_of_find?_eq_some found) member same]

end Store

/-! ## Operations on databases

Each lemma says all that an operation does when it succeeds: which store it finds, what is checked, and what
becomes of the store. -/

namespace Database
variable {s : Store} {db db' : Database} {now : Moment} {id : Int}

theorem issueStore_eq_ok : db.issueStore = .ok s ↔ db = ready s := by
  cases db <;> simp [issueStore, store]

theorem get_eq_ok {i : Issue} : db.get id = .ok i ↔ ∃ s, db = ready s ∧ s.find? id = .ok (some i) := by
  constructor
  · intro run
    obtain ⟨found, finds, run⟩ := bind_eq_ok.mp run
    obtain ⟨s, isReady, finds⟩ := bind_eq_ok.mp finds
    cases found with
    | none => cases run
    | some i' =>
      cases run
      exact ⟨s, issueStore_eq_ok.mp isReady, finds⟩
  · rintro ⟨s, rfl, finds⟩
    exact bind_eq_ok.mpr ⟨some i, bind_eq_ok.mpr ⟨s, rfl, finds⟩, rfl⟩

/-- An operation of the store that answers something. -/
theorem answers_eq_ok {α : Type} {operation : Store → Except StoreError (α × Store)} {a : α} :
    (db.issueStore >>= fun s => operation s >>= fun made => .ok (made.1, ready made.2)) = .ok (a, db') ↔
      ∃ s s', db = ready s ∧ operation s = .ok (a, s') ∧ db' = ready s' := by
  constructor
  · intro run
    obtain ⟨s, isReady, run⟩ := bind_eq_ok.mp run
    obtain ⟨⟨_, s'⟩, performs, run⟩ := bind_eq_ok.mp run
    cases run
    exact ⟨s, s', issueStore_eq_ok.mp isReady, performs, rfl⟩
  · rintro ⟨s, s', rfl, performs, rfl⟩
    exact bind_eq_ok.mpr ⟨s, rfl, bind_eq_ok.mpr ⟨(a, s'), performs, rfl⟩⟩

theorem insert_eq_ok {i : Issue} : db.insert i now = .ok (id, db') ↔
    ∃ s s', db = ready s ∧ s.insert i now = .ok (id, s') ∧ db' = ready s' :=
  answers_eq_ok

theorem assignStatus_eq_ok {status : Option String} {previous : String} :
    db.assignStatus id status now = .ok (previous, db') ↔
      ∃ s s', db = ready s ∧ s.setStatus id status now = .ok (previous, s') ∧ db' = ready s' :=
  answers_eq_ok

theorem remove_eq_ok {found : Bool} : db.remove id = .ok (found, db') ↔
    ∃ s s', db = ready s ∧ s.delete id = .ok (found, s') ∧ db' = ready s' :=
  answers_eq_ok

theorem assign_eq_ok {fields : List (String × Option String)} {labels : LabelList} :
    db.assign id fields labels now = .ok db' ↔ ∃ s s' assignments, db = ready s ∧
      Store.assignments fields = .ok assignments ∧ s.update id assignments labels now = .ok s' ∧
      db' = ready s' := by
  constructor
  · intro run
    obtain ⟨assignments, named, run⟩ := bind_eq_ok.mp run
    obtain ⟨s, isReady, run⟩ := bind_eq_ok.mp run
    obtain ⟨s', updates, run⟩ := bind_eq_ok.mp run
    cases run
    exact ⟨s, s', assignments, issueStore_eq_ok.mp isReady, named, updates, rfl⟩
  · rintro ⟨s, s', assignments, rfl, named, updates, rfl⟩
    exact bind_eq_ok.mpr ⟨assignments, named, bind_eq_ok.mpr ⟨s, rfl, bind_eq_ok.mpr ⟨s', updates, rfl⟩⟩⟩

theorem create_eq_ok {n : NewIssue} : db.create n now = .ok (id, db') ↔
    ∃ s s' i, db = ready s ∧ n.check now = .ok i ∧ s.insert i now = .ok (id, s') ∧ db' = ready s' := by
  constructor
  · intro run
    obtain ⟨i, checks, run⟩ := bind_eq_ok.mp run
    obtain ⟨s, s', isReady, inserts, isAfter⟩ := insert_eq_ok.mp run
    exact ⟨s, s', i, isReady, checks, inserts, isAfter⟩
  · rintro ⟨s, s', i, isReady, checks, inserts, isAfter⟩
    exact bind_eq_ok.mpr ⟨i, checks, insert_eq_ok.mpr ⟨s, s', isReady, inserts, isAfter⟩⟩

theorem update_eq_ok {c : Changes} : db.update id c now = .ok db' ↔
    ∃ s s' i assignments, db = ready s ∧ s.find? id = .ok (some i) ∧ c.check = .ok assignments ∧
      s.update id assignments c.labels now = .ok s' ∧ db' = ready s' := by
  constructor
  · intro run
    obtain ⟨i, gets, run⟩ := bind_eq_ok.mp run
    obtain ⟨assignments, checks, run⟩ := bind_eq_ok.mp run
    obtain ⟨s, isReady, run⟩ := bind_eq_ok.mp run
    obtain ⟨s', updates, run⟩ := bind_eq_ok.mp run
    cases run
    cases issueStore_eq_ok.mp isReady
    obtain ⟨_, same, finds⟩ := get_eq_ok.mp gets
    cases same
    exact ⟨s, s', i, assignments, rfl, finds, checks, updates, rfl⟩
  · rintro ⟨s, s', i, assignments, rfl, finds, checks, updates, rfl⟩
    refine bind_eq_ok.mpr ⟨i, get_eq_ok.mpr ⟨s, rfl, finds⟩, ?_⟩
    refine bind_eq_ok.mpr ⟨assignments, checks, ?_⟩
    exact bind_eq_ok.mpr ⟨s, rfl, bind_eq_ok.mpr ⟨s', updates, rfl⟩⟩

theorem setStatus_eq_ok {status : Option String} : db.setStatus id status now = .ok db' ↔
    ∃ s s' i word previous, db = ready s ∧ Vocabulary.status.check status = .ok word ∧
      s.find? id = .ok (some i) ∧ s.setStatus id (some word) now = .ok (previous, s') ∧ db' = ready s' := by
  constructor
  · intro run
    obtain ⟨word, checks, run⟩ := bind_eq_ok.mp run
    obtain ⟨i, gets, run⟩ := bind_eq_ok.mp run
    obtain ⟨⟨previous, _⟩, assigns, run⟩ := bind_eq_ok.mp run
    cases run
    obtain ⟨s, s', rfl, sets, isAfter⟩ := assignStatus_eq_ok.mp assigns
    obtain ⟨_, same, finds⟩ := get_eq_ok.mp gets
    cases same
    exact ⟨s, s', i, word, previous, rfl, checks, finds, sets, isAfter⟩
  · rintro ⟨s, s', i, word, previous, rfl, checks, finds, sets, rfl⟩
    refine bind_eq_ok.mpr ⟨word, checks, bind_eq_ok.mpr ⟨i, get_eq_ok.mpr ⟨s, rfl, finds⟩, ?_⟩⟩
    exact bind_eq_ok.mpr ⟨(previous, ready s'), assignStatus_eq_ok.mpr ⟨s, s', rfl, sets, rfl⟩, rfl⟩

theorem delete_eq_ok : db.delete id = .ok db' ↔ db.remove id = .ok (true, db') := by
  constructor
  · intro run
    obtain ⟨⟨found, _⟩, removes, run⟩ := bind_eq_ok.mp run
    cases found with
    | false => cases run
    | true =>
      cases run
      exact removes
  · exact fun removes => bind_eq_ok.mpr ⟨(true, db'), removes, rfl⟩

/-! ## What operations make of a store -/

/-- What the check of a new issue lets through is stored in a fresh record. -/
theorem isFresh_of_check {n : NewIssue} {i : Issue} (checks : n.check now = .ok i) (id : Int)
    {title type status priority : String} (titleGiven : i.title = some title)
    (typeGiven : i.type = some type) (statusGiven : i.status = some status)
    (priorityGiven : i.priority = some priority) :
    (i.record id title type status priority now).IsFresh now := by
  obtain ⟨checkedTitle, titleChecks, checks⟩ := bind_eq_ok.mp checks
  obtain ⟨checkedType, typeChecks, checks⟩ := bind_eq_ok.mp checks
  obtain ⟨checkedPriority, priorityChecks, checks⟩ := bind_eq_ok.mp checks
  cases normal : normalizeLabels n.labels with
  | none =>
    rw [normal] at checks
    cases checks
  | some names =>
    rw [normal] at checks
    cases checks
    cases titleGiven
    cases typeGiven
    cases statusGiven
    cases priorityGiven
    exact {
      proper := {
        title := isName_of_checkTitle titleChecks
        type := (Vocabulary.check_eq_ok.mp typeChecks).2
        status := (by decide : defaultStatus ∈ statuses)
        priority := (Vocabulary.check_eq_ok.mp priorityChecks).2
        assignee := Text.strip_strip _
        branch := Text.strip_strip _ }
      createdAt := rfl
      updatedAt := rfl
      closedAt := rfl
      isOpen := rfl }

theorem create_evolves {n : NewIssue} (run : (ready s).create n now = .ok (id, db)) :
    ∃ s', db = ready s' ∧ s.Evolves now (some id) s' := by
  obtain ⟨_, s', i, same, checks, inserts, rfl⟩ := create_eq_ok.mp run
  cases same
  obtain ⟨title, type, status, priority, titleGiven, typeGiven, statusGiven, priorityGiven,
    ⟨rfl, _⟩, set⟩ := Store.insert_eq_ok.mp inserts
  obtain ⟨records, last, labels⟩ := Store.setLabels_evolves set
  have fresh := isFresh_of_check checks (s.lastRecord + 1) titleGiven typeGiven statusGiven
    priorityGiven
  exact ⟨s', rfl, .created fresh rfl records last fun sound => labels (sound.congr rfl rfl)⟩

/-- A successful update assigns the checked values to the record with the id. -/
theorem update_records {c : Changes} (run : (ready s).update id c now = .ok db) :
    ∃ s' assignments, db = ready s' ∧ c.check = .ok assignments ∧
      s'.records = s.records.map (fun r =>
        if r.id = id then { r.assign assignments with updatedAt := now.isoSeconds } else r) ∧
      s'.lastRecord = s.lastRecord ∧ (s.HasSoundLabels → s'.HasSoundLabels) := by
  obtain ⟨_, s', _, assignments, same, _, checks, updates, rfl⟩ := update_eq_ok.mp run
  cases same
  refine ⟨s', assignments, rfl, checks, ?_⟩
  obtain ⟨t, modified, ⟨_, rfl⟩ | ⟨_, set⟩⟩ := Store.update_eq_ok updates
  · subst modified
    exact ⟨rfl, rfl, fun sound => sound.congr rfl rfl⟩
  · obtain ⟨records, last, labels⟩ := Store.setLabels_evolves set
    subst modified
    exact ⟨records, last, fun sound => labels (sound.congr rfl rfl)⟩

theorem update_evolves {c : Changes} (run : (ready s).update id c now = .ok db) :
    ∃ s', db = ready s' ∧ s.Evolves now none s' := by
  obtain ⟨s', assignments, isReady, checks, records, last, labels⟩ := update_records run
  have revises := Record.revises_assign (properAssignments_of_check checks) now
  exact ⟨s', isReady, .revised (fun r _ _ => revises r) records last labels⟩

/-- A successful change of status moves the record with the id to a status of the vocabulary. -/
theorem setStatus_records {status : Option String}
    (run : (ready s).setStatus id status now = .ok db) :
    ∃ r word, s.record? id = some r ∧ Vocabulary.status.check status = .ok word ∧
      db = ready (s.modify id fun r' => { r' with
        status := word
        closedAt := if isClosing word then some (r.closedAt.getD now.isoSeconds) else none
        updatedAt := now.isoSeconds }) := by
  obtain ⟨_, s', _, word, _, same, checks, _, sets, rfl⟩ := setStatus_eq_ok.mp run
  cases same
  obtain ⟨found, _, isFound, same, rfl⟩ := Store.setStatus_eq_ok sets
  cases same
  exact ⟨found, word, isFound, checks, rfl⟩

theorem setStatus_evolves (distinct : (s.records.map (·.id)).Nodup) {status : Option String}
    (run : (ready s).setStatus id status now = .ok db) :
    ∃ s', db = ready s' ∧ s.Evolves now none s' := by
  obtain ⟨found, word, isFound, checks, rfl⟩ := setStatus_records run
  refine ⟨_, rfl, .revised ?_ rfl rfl fun sound => sound.congr rfl rfl⟩
  intro r member same
  have there : s.record? id = some r := (Store.record?_eq_some distinct).mpr ⟨member, same⟩
  cases isFound.symm.trans there
  refine ⟨rfl, rfl, rfl, ?_, fun proper => ?_⟩
  · by_cases closing : isClosing word = true
    · exact Or.inr (Or.inl ⟨closing, if_pos closing⟩)
    · exact Or.inr (Or.inr ⟨by simpa using closing, if_neg closing⟩)
  · exact { proper with status := (Vocabulary.check_eq_ok.mp checks).2 }

/-- A successful deletion takes the record with the id away, and its attachments. -/
theorem delete_records (run : (ready s).delete id = .ok db) :
    db = ready { s.detachAll id with records := s.records.filter (·.id != id) } := by
  obtain ⟨_, _, same, deletes, rfl⟩ := remove_eq_ok.mp (delete_eq_ok.mp run)
  cases same
  obtain ⟨_, _, rfl⟩ := Store.delete_eq_ok.mp deletes
  rfl

theorem delete_evolves (run : (ready s).delete id = .ok db) :
    ∃ s', db = ready s' ∧ s.Evolves now none s' :=
  ⟨_, delete_records run, .deleted rfl rfl fun sound => sound.congr rfl rfl⟩

end Database

/-! ## The invariant -/

/-- What every operation keeps: ids of records ascend up to the last one given, texts and times are
    such as operations leave them, and labels are sound. -/
structure Store.IsSound (s : Store) : Prop where
  ascending : (s.records.map (·.id)).Pairwise (· < ·)
  bound : ∀ r ∈ s.records, r.id ≤ s.lastRecord
  proper : ∀ r ∈ s.records, r.HasProperTexts
  times : ∀ r ∈ s.records, ∃ created updated closed, r.Times created updated closed
  labels : s.HasSoundLabels

theorem Store.isSound_empty : ({} : Store).IsSound :=
  ⟨by simp, by simp, by simp, by simp, ⟨by simp, by simp, by simp, by simp⟩⟩

namespace Store.IsSound
variable {s s' : Store} {now : Moment} {created : Option Int}

theorem distinct (sound : s.IsSound) : (s.records.map (·.id)).Nodup :=
  sound.ascending.imp fun less => ne_of_lt less

/-- The invariant is kept by what an operation makes of a store. -/
theorem evolve (sound : s.IsSound) (naive : now.isNaive) (evolves : s.Evolves now created s') :
    s'.IsSound where
  ascending := by
    cases evolves with
    | @created _ r fresh id records last labels =>
      rw [records, List.map_append, List.pairwise_append]
      refine ⟨sound.ascending, by simp, ?_⟩
      intro old member new single
      obtain ⟨r', inside, rfl⟩ := List.mem_map.mp member
      have bound := sound.bound r' inside
      have newId : new = r.id := List.mem_singleton.mp single
      omega
    | @revised _ id change revises records last labels =>
      have same : s'.records.map (·.id) = s.records.map (·.id) := by
        rw [records, List.map_map]
        refine List.map_congr_left fun r member => ?_
        by_cases there : r.id = id
        · simp [there, (revises r member there).id]
        · simp [there]
      rw [same]
      exact sound.ascending
    | @deleted _ id records last labels =>
      rw [records]
      exact sound.ascending.sublist (List.filter_sublist.map _)
  bound := by
    intro r' member
    have last := evolves.lastRecord_le
    rcases evolves.origin member with old | ⟨r, old, revises⟩ | ⟨_, rfl⟩
    · have bound := sound.bound r' old
      omega
    · have bound := sound.bound r old
      rw [revises.id]
      omega
    · obtain ⟨id, after⟩ := evolves.created_eq
      omega
  proper := by
    intro r' member
    rcases evolves.origin member with old | ⟨r, old, revises⟩ | ⟨fresh, _⟩
    · exact sound.proper r' old
    · exact revises.proper (sound.proper r old)
    · exact fresh.proper
  times := by
    intro r' member
    rcases evolves.origin member with old | ⟨r, old, revises⟩ | ⟨fresh, _⟩
    · exact sound.times r' old
    · obtain ⟨created, updated, closed, times⟩ := sound.times r old
      obtain ⟨closed', times', _⟩ := revises.times naive times
      exact ⟨created, now, closed', times'⟩
    · exact ⟨now, now, none, fresh.times naive⟩
  labels := evolves.labels sound.labels

end Store.IsSound

end IssueTracker
