import Mathlib.Logic.Relation
import IssueTracker.Proofs.Project
import IssueTracker.Proofs.Store.Lookup
import IssueTracker.Proofs.Store.Reading

/-!
# Reading after requests

A request changes at most the database in its file, and that by one of the changes that operations
make (`Project.handle_changes`).  So the tables of every database hold together after every run, and
however the issues and labels are read, the answers agree (`Project.run_readsAgree`).
-/

namespace IssueTracker

open Relation (ReflTransGen)

namespace Database

/-- What a run of operations makes of a database. -/
def Reaches (db db' : Database) : Prop := ReflTransGen Change db db'

/-- What an empty store has and every change keeps is had by the store of a database after every run. -/
theorem Reaches.preserves {motive : Store → Prop} (empty : motive {})
    (keeps : ∀ {s s' : Store}, s.Change s' → motive s → motive s') {db db' : Database}
    (reaches : db.Reaches db') (before : ∀ s, db = ready s → motive s) :
    ∀ s, db' = ready s → motive s := by
  induction reaches with
  | refl => exact before
  | tail _ change ih =>
    cases change with
    | tables =>
      rintro s ⟨⟩
      exact empty
    | store change =>
      rintro s ⟨⟩
      exact keeps change (ih _ rfl)

theorem Reaches.isConsistent {db db' : Database} (reaches : db.Reaches db')
    (before : ∀ s, db = ready s → s.IsConsistent) : ∀ s, db' = ready s → s.IsConsistent :=
  reaches.preserves Store.isConsistent_empty Store.Change.isConsistent before

theorem Reaches.labels_subset {s : Store} {db' : Database} (reaches : (ready s).Reaches db') :
    ∃ s', db' = ready s' ∧ s.labels ⊆ s'.labels := by
  induction reaches with
  | refl => exact ⟨s, rfl, List.Subset.refl _⟩
  | tail _ change ih =>
    obtain ⟨t, rfl, subset⟩ := ih
    -- Tables are only made in a blank file, so they are not made again.
    cases change with
    | store change => exact ⟨_, rfl, List.Subset.trans subset change.labels_subset⟩

end Database

namespace Project
variable {p : Project} {file other : String}

/-- A change of one database shows under every path to its file, and under no other. -/
theorem database_setDatabase (p : Project) (file other : String) (db : Database) :
    (p.setDatabase file db).database other = p.database other ∨
      (p.setDatabase file db).database other = db ∧ p.database other = p.database file := by
  cases named : fileName? file with
  | none => exact Or.inl (by simp only [setDatabase, named])
  | some name =>
    cases sought : fileName? other with
    | none => exact Or.inl (by simp only [database, sought])
    | some name' =>
      simp only [setDatabase, named, database, sought, Json.find?_setMember]
      by_cases same : name = name'
      · subst same
        exact Or.inr ⟨by simp, rfl⟩
      · exact Or.inl (by rw [if_neg same])

/-- The database in a file is the same or has changed once. -/
def ChangesTo (p : Project) (other : String) (p' : Project) : Prop :=
  p'.database other = p.database other ∨ (p.database other).Change (p'.database other)

theorem change_changes {α : Type} {changed : Except StoreError (α × Database)}
    {reply : α → Database → Except StoreError Reply}
    (changes : ∀ made db, changed = .ok (made, db) →
      db = p.database file ∨ (p.database file).Change db) (other : String) :
    p.ChangesTo other (p.change file changed reply).2 := by
  cases run : changed with
  | error error => exact Or.inl rfl
  | ok made =>
    obtain ⟨made, db⟩ := made
    rcases p.database_setDatabase file other db with same | ⟨new, old⟩
    · exact Or.inl same
    · rcases changes made db run with same | changed
      · exact Or.inl (new.trans (same.trans old.symm))
      · refine Or.inr ?_
        rw [old]
        exact new.symm ▸ changed

theorem changeIssue_changes {id : Int} {changed : Except StoreError Database}
    (changes : ∀ db, changed = .ok db → (p.database file).Change db) (other : String) :
    p.ChangesTo other (p.changeIssue file id changed).2 := by
  refine change_changes (fun _ db run => ?_) other
  obtain ⟨db', run, same⟩ := map_eq_ok.mp run
  cases same
  exact Or.inr (changes db run)

theorem changeSettings_changes (changed : Except SavedError Written) (other : String) :
    p.ChangesTo other (p.changeSettings changed).2 := by
  cases changed <;> exact Or.inl rfl

theorem handle_changes [Json.Nesting] (p : Project) (file : String) (request : Request) (other : String) :
    p.ChangesTo other (p.handle file request).2 := by
  cases request with
  | createTables =>
    refine change_changes (fun _ db run => ?_) other
    obtain ⟨_, creates, same⟩ := map_eq_ok.mp run
    cases same
    exact Database.createTables_changes creates
  | create issue => exact change_changes (fun _ _ creates => Or.inr (Database.create_changes creates)) other
  | update id changes => exact changeIssue_changes (fun _ => Database.update_changes) other
  | setStatus id status => exact changeIssue_changes (fun _ => Database.setStatus_changes) other
  | close id => exact changeIssue_changes (fun _ => Database.setStatus_changes) other
  | reopen id => exact changeIssue_changes (fun _ => Database.setStatus_changes) other
  | delete id => exact change_changes (fun _ _ removes => Or.inr (Database.remove_changes removes)) other
  | insert issue => exact change_changes (fun _ _ inserts => Or.inr (Database.insert_changes inserts)) other
  | assign id fields labels =>
    refine change_changes (fun _ db run => ?_) other
    obtain ⟨_, assigns, same⟩ := map_eq_ok.mp run
    cases same
    exact Or.inr (Database.assign_changes assigns)
  | assignStatus id status =>
    exact change_changes (fun _ _ assigns => Or.inr (Database.assignStatus_changes assigns)) other
  | remove id => exact change_changes (fun _ _ removes => Or.inr (Database.remove_changes removes)) other
  | saveSearch | deleteSearch => exact changeSettings_changes _ other
  | setClock | writeSettings | get | list | labels | find | search | execute | loadSearch | savedSearches
    | runSaved | settings | readSettings => exact Or.inl rfl

theorem run_reaches [Json.Nesting] (p : Project) (requests : List (String × Request)) (other : String) :
    (p.database other).Reaches ((p.run requests).2.database other) := by
  induction requests generalizing p with
  | nil => exact .refl
  | cons first later ih =>
    have rest := ih (p.handle first.1 first.2).2
    rcases p.handle_changes first.1 first.2 other with same | change
    · rw [same] at rest
      exact rest
    · exact .head change rest

/-- The one store of a fresh project is empty. -/
theorem database_fresh {settings : SettingsFile} {clock : Moment} {s : Store}
    (isReady : (fresh settings clock).database file = .ready s) : s = {} := by
  cases named : fileName? file with
  | none => simp [database, named] at isReady
  | some name =>
    by_cases same : "issues.db" = name
    · simp only [database, named, fresh, same, List.find?_cons, beq_self_eq_true] at isReady
      cases isReady
      rfl
    · simp [database, named, fresh, same] at isReady

theorem isConsistent_fresh (settings : SettingsFile) (clock : Moment) (file : String) :
    ∀ s, (fresh settings clock).database file = .ready s → s.IsConsistent := by
  intro s isReady
  rw [database_fresh isReady]
  exact Store.isConsistent_empty

/-- Whatever was asked of a project before, checked or not: the issues in a file whose tables are there
    are listed as they are found one by one, and the labels in use are those of the issues.  Whatever is
    asked later, the tables stay with all their labels, in use or not. -/
theorem run_readsAgree [Json.Nesting] (settings : SettingsFile) (clock : Moment)
    (before after : List (String × Request)) (file : String) {s : Store}
    (tables : ((fresh settings clock).run before).2.database file = .ready s) :
    let p := ((fresh settings clock).run before).2
    (∃ issues used, (p.database file).list none = .ok issues ∧ (p.database file).labels = .ok used ∧
      s.ReadsAgree issues used) ∧
      ∃ s', (p.run after).2.database file = .ready s' ∧ s.labels ⊆ s'.labels := by
  intro p
  have consistent : s.IsConsistent :=
    (run_reaches _ before file).isConsistent (isConsistent_fresh settings clock file) s tables
  have readable : s.IsReadable :=
    isReadable_database (isReadable_run (isReadable_fresh settings clock) before) file s tables
  obtain ⟨issues, read, agree⟩ := consistent.readsAgree readable
  constructor
  · rw [tables]
    refine ⟨issues, s.usedLabels, ?_, rfl, agree⟩
    exact bind_eq_ok.mpr ⟨s, rfl, bind_eq_ok.mpr ⟨issues, read, rfl⟩⟩
  · have reaches := p.run_reaches after file
    rw [tables] at reaches
    exact reaches.labels_subset

/-- The tables in every file hold together, also the attachments, whatever was asked of the project. -/
theorem isIntact_run [Json.Nesting] {settings : SettingsFile} {clock : Moment}
    {before : List (String × Request)} {s : Store}
    (tables : ((fresh settings clock).run before).2.database file = .ready s) : s.IsIntact := by
  refine (run_reaches _ before file).preserves Store.isIntact_empty Store.Change.isIntact ?_ s tables
  intro s isReady
  rw [database_fresh isReady]
  exact Store.isIntact_empty

/-! ## Reading one issue -/

/-- A database that is kept in a file with tables is read there. -/
theorem database_setDatabase_self {s : Store} (isReady : p.database file = .ready s) (db : Database) :
    (p.setDatabase file db).database file = db := by
  cases named : fileName? file with
  | none => simp [database, named] at isReady
  | some name => simp only [setDatabase, database, named, Json.find?_setMember, if_true,
      Option.getD_some]

theorem handle_find [Json.Nesting] {s : Store} (isReady : p.database file = .ready s) (id : Int) :
    p.handle file (.find id) = (((s.find? id).mapError .store).map .issue, p) := by
  rw [handle, isReady]
  change ((s.find? id).mapError Failure.store >>= fun found => pure (Reply.issue found), p) = _
  cases s.find? id <;> rfl

private def withoutFreeze : List (String × Request) := [
  ("issues.db", .create { title := some "Crash", labels := .ofNames ["ui"] }),
  ("issues.db", .create { title := some "Freeze", labels := .ofNames ["net", "ui"] }),
  ("./issues.db", .delete 2)]

/-- A label that only a deleted issue had is not listed, and it stays. -/
theorem run_readsAgree_orphan :
    ∃ s issues used,
      let db := ((fresh .missing .earliest).run withoutFreeze).2.database "issues.db"
      db = .ready s ∧ db.list none = .ok issues ∧ db.labels = .ok used ∧
        issues.map (·.id) = [some 1] ∧ "net" ∉ used ∧ "net" ∈ s.labels.map (·.name) := by
  obtain ⟨s, tables⟩ : ∃ s, ((fresh .missing .earliest).run withoutFreeze).2.database "issues.db" =
    .ready s := ⟨_, rfl⟩
  obtain ⟨⟨issues, used, listed, labels, agree⟩, _⟩ :=
    run_readsAgree .missing .earliest withoutFreeze [] "issues.db" tables
  obtain ⟨one, unused, kept⟩ : s.ids = [1] ∧ (∀ row ∈ s.labelRows, row.2 ≠ "net") ∧
      "net" ∈ s.labels.map (·.name) := by
    cases tables
    decide +kernel
  refine ⟨s, issues, used, tables, listed, labels, ?_, ?_, kept⟩
  · rw [agree.listed, one]
    rfl
  · intro lists
    rw [agree.query, Store.sortNames, List.mem_mergeSort, mem_distinct, List.mem_map] at lists
    obtain ⟨row, inside, isNet⟩ := lists
    exact unused row inside isNet

end Project

end IssueTracker
