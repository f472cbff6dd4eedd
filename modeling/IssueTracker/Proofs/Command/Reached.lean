import IssueTracker.Proofs.Command.Answer
import IssueTracker.Proofs.Project.Reading

/-!
# What calls of the program make of a tree

Commands write a database only as an operation on issues makes it of the one that was there.  So the tables
of every database hold together in all trees that calls of the program reach from one without databases
(`Tree.Reached.isConsistent`).
-/

namespace IssueTracker

/-- A database whose tables, if it has them, hold together. -/
def Database.IsConsistent (db : Database) : Prop := ∀ s, db = .ready s → s.IsConsistent

theorem Database.Change.isConsistent {db db' : Database} (change : db.Change db') (before : db.IsConsistent) :
    db'.IsConsistent :=
  Reaches.isConsistent (.single change) before

/-! ## Trees -/

/-- A tree in which the tables of every database hold together. -/
def Tree.IsConsistent (t : Tree) : Prop := ∀ place db, (place, .database db) ∈ t.entries → db.IsConsistent

namespace Tree
variable {t : Tree} {directory : Place} {path : Path} {entry : Entry}

theorem IsConsistent.find? (consistent : t.IsConsistent) {db : Database}
    (found : t.find? directory path = some (.database db)) : db.IsConsistent := by
  obtain ⟨place, _, there⟩ := Option.bind_eq_some_iff.mp found
  rw [entryAt?] at there
  split at there
  · cases there
  · obtain ⟨⟨_, _⟩, isFirst, rfl⟩ := Option.map_eq_some_iff.mp there
    exact consistent _ db (List.mem_of_find?_eq_some isFirst)

theorem IsConsistent.put (consistent : t.IsConsistent) {place : Place}
    (sound : ∀ db, entry = .database db → db.IsConsistent) : (t.put place entry).IsConsistent := by
  intro other db member
  rcases List.mem_cons.mp member with same | old
  · exact sound db (Prod.mk.inj same).2.symm
  · exact consistent other db (List.mem_filter.mp old).1

theorem IsConsistent.write (consistent : t.IsConsistent)
    (sound : ∀ db, entry = .database db → db.IsConsistent) :
    (t.write directory path entry).IsConsistent := by
  rw [Tree.write]
  split
  · exact consistent.put sound
  · exact consistent

theorem IsConsistent.makeLast (consistent : t.IsConsistent) {t' : Tree}
    (made : t.makeLast directory path = .ok t') : t'.IsConsistent := by
  rw [Tree.makeLast] at made
  split at made
  · cases made
  · cases made
  · split at made
    · cases made
      exact consistent
    · cases made
    · cases made
      exact consistent.put fun _ same => nomatch same

/-- Also the directories that were made before one could not be leave the databases as they are. -/
theorem IsConsistent.makeDirectory (consistent : t.IsConsistent) (directory : Place)
    (path : Path) :
    (t.makeDirectory directory path).2.IsConsistent := by
  fun_induction t.makeDirectory directory path with
  | case1 path t' made => exact consistent.makeLast made
  | case2 => exact consistent
  | case3 path _ fails filled error t' outcome ih =>
    rw [outcome] at ih
    exact ih
  | case4 path _ fails filled t' outcome t'' made ih =>
    rw [outcome] at ih
    exact ih.makeLast made
  | case5 path _ fails filled t' outcome error made ih =>
    rw [outcome] at ih
    exact ih
  | case6 => exact consistent

end Tree

theorem Workspace.isConsistent_database {w : Workspace} (consistent : w.tree.IsConsistent) (path : Path) :
    (w.database path).IsConsistent := by
  rw [database]
  split
  · rename_i found
    exact consistent.find? found
  all_goals
    intro s isReady
    cases isReady

theorem Workspace.WritesFile.isConsistent {w w' : Workspace} (writes : w.WritesFile w')
    (consistent : w.tree.IsConsistent) : w'.tree.IsConsistent := by
  rcases writes with rfl | ⟨path, content, rfl⟩
  · exact consistent
  · exact consistent.write nofun

/-! ## Commands -/

namespace Run

variable {α β : Type} {s : Session} {paths : ProjectPaths} {id : Int}

/-- A part of a command keeps the tables of every database together, whether it goes on or ends the command. -/
def IsSafe (x : Run α) (s : Session) : Prop :=
  x.Meets s (fun _ s' => s'.workspace.tree.IsConsistent) fun _ s' => s'.workspace.tree.IsConsistent

theorem IsSafe.bind {x : Run α} {f : α → Run β} (first : x.IsSafe s)
    (later : ∀ a s', s'.workspace.tree.IsConsistent → (f a).IsSafe s') : (x >>= f).IsSafe s :=
  Meets.bind (first.mono later fun _ _ => id)

theorem allowsFailure_isConsistent (consistent : s.workspace.tree.IsConsistent) (code : Nat) :
    AllowsFailure code s.workspace fun _ s' => s'.workspace.tree.IsConsistent := by
  rintro e s' - same
  rwa [same]

theorem isSafe_modify {change : Session → Session} (after : (change s).workspace.tree.IsConsistent) :
    (modify change : Run Unit).IsSafe s :=
  after

section
variable (consistent : s.workspace.tree.IsConsistent)
include consistent

/-- Something may be done before the rest. -/
theorem isSafe_before {c : Prop} [Decidable c] {first : Run Unit} {next : Run α} (safe : first.IsSafe s)
    (later : ∀ s', s'.workspace.tree.IsConsistent → next.IsSafe s') :
    (if c then first >>= fun _ => next else next).IsSafe s := by
  split
  · exact safe.bind fun _ => later
  · exact later s consistent

theorem isSafe_print (markup : String) : (print markup).IsSafe s :=
  print_meets (allowsFailure_isConsistent consistent 1) fun _ => consistent

theorem isSafe_query (about raw : String) : (query about raw).IsSafe s :=
  query_meets (allowsFailure_isConsistent consistent 1) (allowsFailure_isConsistent consistent 2)
    fun _ _ => consistent

theorem isSafe_putSettings (path : Path) (written : Written) : (putSettings path written).IsSafe s :=
  .of_ok rfl (consistent.write nofun)

theorem isSafe_changeSettings (path : Path) (change : SettingsFile → Except SavedError Written) :
    (changeSettings path change).IsSafe s :=
  changeSettings_meets (fun _ _ => consistent.write nofun) fun _ _ => consistent

/-- A database is kept that is the one that was there, or that a change made of it. -/
theorem isSafe_put_database {path : Path} {db : Database}
    (changes : db = s.workspace.database path ∨ (s.workspace.database path).Change db) :
    (put path (.database db)).IsSafe s := by
  have before := s.workspace.isConsistent_database consistent path
  refine .of_ok put_run (consistent.write ?_)
  rintro _ ⟨⟩
  rcases changes with rfl | change
  · exact before
  · exact change.isConsistent before

theorem isSafe_stored (isReported : StoreError → Bool) (outcome : Except StoreError α) :
    (stored isReported outcome).IsSafe s :=
  stored_meets (allowsFailure_isConsistent consistent 1) fun _ _ => consistent

theorem isSafe_storedOrFault (outcome : Except StoreError α) : (storedOrFault outcome).IsSafe s :=
  unreported_meets (allowsFailure_isConsistent consistent 1) fun _ _ => consistent

theorem isSafe_failAs (message : AnyText) : (failAs message : Run α).IsSafe s :=
  failAs_meets (allowsFailure_isConsistent consistent 1)

/-- What an operation makes of a database is kept. -/
theorem isSafe_stored_put {path : Path} {isReported : StoreError → Bool} {outcome : Except StoreError α}
    {db : α → Database} {next : α → Run β}
    (changes : ∀ made, outcome = .ok made →
      db made = s.workspace.database path ∨ (s.workspace.database path).Change (db made))
    (later : ∀ made s', s'.workspace.tree.IsConsistent → (next made).IsSafe s') :
    (stored isReported outcome >>= fun made => put path (.database (db made)) >>= fun _ =>
      next made).IsSafe s := by
  refine Meets.bind (stored_meets (allowsFailure_isConsistent consistent 1) fun made operates => ?_)
  exact (isSafe_put_database consistent (changes made operates)).bind fun _ => later made

/-! ### Projects and issues -/

theorem isSafe_init (asked : Option Path) (name : String) : (init asked name).IsSafe s := by
  refine Meets.bind (.of_ok workspace_run ?_)
  refine (isSafe_modify ?_).bind fun _ s' made => ?_
  · exact consistent.makeDirectory _ _
  refine Meets.bind (unreported_meets (allowsFailure_isConsistent made 1) fun _ _ => ?_)
  refine Meets.bind (.of_ok database_eq ?_)
  refine Meets.bind (unreported_meets (allowsFailure_isConsistent made 1) fun db creates => ?_)
  refine (isSafe_put_database made (Database.createTables_changes creates)).bind fun _ s'' created => ?_
  refine Meets.bind (.of_ok entryAt?_run ?_)
  split
  · refine (isSafe_putSettings created _ _).bind fun _ _ after => ?_
    exact Meets.bind (unreported_meets (allowsFailure_isConsistent after 1) fun _ _ => isSafe_print after _)
  · exact isSafe_print created _

theorem isSafe_create (issue : NewIssue) (mine : Bool) : (create paths issue mine).IsSafe s := by
  refine Meets.bind (.of_ok workspace_run (Meets.bind (.of_ok database_eq ?_)))
  refine isSafe_stored_put consistent (fun _ creates => Or.inr (Database.create_changes creates))
    fun made s' after => ?_
  exact (isSafe_storedOrFault after _).bind fun i s'' after => isSafe_print after _

theorem isSafe_change {isReported : StoreError → Bool} {operation : Database → Moment → Except StoreError Database}
    (changes : ∀ {db db' now}, operation db now = .ok db' → db.Change db') :
    (change paths id isReported operation).IsSafe s := by
  refine Meets.bind (.of_ok workspace_run (Meets.bind (.of_ok database_eq ?_)))
  refine isSafe_stored_put consistent (fun _ operates => Or.inr (changes operates)) fun db s' after => ?_
  exact isSafe_stored after _ _

theorem isSafe_changeAndSay {done : String} {isReported : StoreError → Bool}
    {operation : Database → Moment → Except StoreError Database}
    (changes : ∀ {db db' now}, operation db now = .ok db' → db.Change db') :
    (changeAndSay paths id done isReported operation).IsSafe s :=
  (isSafe_change consistent changes).bind fun _ _ after => isSafe_print after _

theorem isSafe_setStatus (status : String) : (setStatus paths id status).IsSafe s :=
  (isSafe_change consistent Database.setStatus_changes).bind fun _ _ after => isSafe_print after _

theorem isSafe_confirm (question : String) : (confirm question).IsSafe s := by
  refine Meets.bind (.of_ok rfl (Meets.bind (.of_ok rfl ?_)))
  split
  · exact consistent
  · exact consistent
  · exact consistent

theorem isSafe_delete (confirmed : Bool) : (delete paths id confirmed).IsSafe s := by
  refine isSafe_before consistent (isSafe_confirm consistent _) fun s' asked => ?_
  refine Meets.bind (.of_ok database_eq ?_)
  refine isSafe_stored_put asked (fun _ deletes => Or.inr (Database.delete_changes deletes)) fun _ s'' after => ?_
  exact isSafe_print after _

theorem isSafe_noCommand (reason : NoCommand) : (noCommand reason).IsSafe s := by
  cases reason <;> exact consistent

section
variable [Json.Nesting]

/-! ### Saved searches -/

theorem isSafe_saveSearch (name raw : String) : (saveSearch paths name raw).IsSafe s := by
  refine (isSafe_query consistent _ _).bind fun _ s' asked => ?_
  refine IsSafe.bind (trySave_meets (allowsFailure_isConsistent asked 1) (fun _ _ => asked.write nofun)
    fun _ => asked) fun outcome s'' after => ?_
  cases outcome with
  | some error => exact isSafe_failAs after _
  | none => exact (isSafe_print after _).bind fun _ _ after => isSafe_print after _

theorem isSafe_deleteSearch (name : String) : (deleteSearch paths name).IsSafe s := by
  refine (isSafe_changeSettings consistent _ _).bind fun outcome s' changed => ?_
  exact Meets.bind (saved_meets (allowsFailure_isConsistent changed 1) fun _ _ => isSafe_print changed _)

/-! ### Command lines -/

theorem isSafe_command (asked project : Option Path) (wanted : Command) :
    (command asked project wanted).IsSafe s := by
  cases isFormat : wanted.format? with
  | some format =>
    refine (command_shows isFormat).mono (fun _ s' shows => ?_) fun e s' refuses => ?_
    · exact shows.writes.isConsistent consistent
    · exact refuses.writes.isConsistent consistent
  | none =>
    have inProject {x : ProjectPaths → Run Unit} (safe : ∀ paths, (x paths).IsSafe s) :
        (projectPaths project >>= x).IsSafe s :=
      Meets.bind (projectPaths_meets (allowsFailure_isConsistent consistent 1) fun _ _ _ => safe _)
    cases wanted with
    | init name => exact isSafe_init consistent asked name
    | create issue mine => exact inProject fun _ => isSafe_create consistent issue mine
    | edit id changes => exact inProject fun _ => isSafe_changeAndSay consistent Database.update_changes
    | setStatus id status => exact inProject fun _ => isSafe_setStatus consistent status
    | close id => exact inProject fun _ => isSafe_changeAndSay consistent Database.setStatus_changes
    | reopen id => exact inProject fun _ => isSafe_changeAndSay consistent Database.setStatus_changes
    | delete id confirmed => exact inProject fun _ => isSafe_delete consistent confirmed
    | saveSearch name raw => exact inProject fun _ => isSafe_saveSearch consistent name raw
    | deleteSearch name => exact inProject fun _ => isSafe_deleteSearch consistent name
    | list | labels | inspect | search | explain | runSearch | listSearches => cases isFormat

theorem isSafe_commandLine (arguments : List String) : (commandLine arguments).IsSafe s := by
  unfold commandLine
  split
  · exact isSafe_noCommand consistent _
  · refine Meets.bind (project_meets (allowsFailure_isConsistent consistent 1) ?_)
    split
    · exact isSafe_noCommand consistent _
    · exact isSafe_command consistent _ _ _

end

end

/-- What a command line does is what its run says. -/
theorem Meets.outcome [Json.Nesting] {w : Workspace} {input : List Char} {arguments : List String}
    {P : Unit → Session → Prop} {E : Ending → Session → Prop}
    (meets : (commandLine arguments).Meets { workspace := w, input } P E) :
    (w.run input arguments).1 = .exit 0 ∧ P () (w.run input arguments).2 ∨
      E (w.run input arguments).1 (w.run input arguments).2 := by
  rw [Meets] at meets
  rw [Workspace.run]
  split at meets
  · rename_i run
    rw [run]
    exact Or.inl ⟨rfl, meets⟩
  · rename_i run
    rw [run]
    exact Or.inr meets

end Run

/-! ## Calls -/

/-- A tree that calls of the program make, one after another, of one without databases. -/
inductive Tree.Reached [Json.Nesting] : Tree → Prop
  | start {t : Tree} (none : ∀ place db, (place, .database db) ∉ t.entries) : t.Reached
  | call {w : Workspace} (before : w.tree.Reached) (input : List Char) (arguments : List String) :
    (w.run input arguments).2.workspace.tree.Reached

theorem Workspace.isConsistent_run [Json.Nesting] {w : Workspace} (consistent : w.tree.IsConsistent)
    (input : List Char) (arguments : List String) : (w.run input arguments).2.workspace.tree.IsConsistent := by
  have safe := Run.isSafe_commandLine (s := { workspace := w, input }) consistent arguments
  rcases safe.outcome with ⟨_, after⟩ | after
  · exact after
  · exact after

theorem Tree.Reached.isConsistent [Json.Nesting] {t : Tree} (reached : t.Reached) : t.IsConsistent := by
  induction reached with
  | start none => exact fun place db member => absurd member (none place db)
  | call _ input arguments ih => exact Workspace.isConsistent_run ih input arguments

end IssueTracker
