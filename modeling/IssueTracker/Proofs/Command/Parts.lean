import IssueTracker.Proofs.Command.Session
import IssueTracker.Proofs.Json.Writing

/-!
# What the parts of commands do

A part of a command goes on with a value in a session, or ends the command (`Run.Meets`).  What there is
to know of a part is said once, for any way to go on: what its value is, and that it fails with exit
code 1 and leaves the workspace as it is (`Run.AllowsFailure`).  A command is then gone through part by
part.
-/

namespace IssueTracker

namespace Workspace

/-- The database at a path.  An empty file is one without tables. -/
def database (w : Workspace) (path : Path) : Database :=
  match w.tree.find? w.here path with
  | some (.database db) => db
  | none | some (.file []) => .blank
  | some (.file _) => .foreign
  | some .directory => .unreachable

/-- What there is of a settings file at a path. -/
def settingsFile (w : Workspace) (path : Path) : SettingsFile :=
  match w.tree.find? w.here path with
  | some (.file content) => .content content
  | some (.database db) => .content db.content
  | some .directory => .directory
  | none => .missing

end Workspace

/-- A session that has printed more. -/
def Session.writing (s : Session) (text : List Char) : Session := { s with output := s.output ++ text }

/-- A session in which an entry was put at a path. -/
def Session.putting (s : Session) (path : Path) (entry : Entry) : Session :=
  { s with workspace.tree := s.workspace.tree.write s.workspace.here path entry }

namespace Run

variable {α β : Type} {s : Session} {P : α → Session → Prop} {Q : β → Session → Prop}
  {E : Ending → Session → Prop} {x : Run α} {f : α → Run β}

/-! ## Going on and ending -/

/-- What a part of a command does in a session: how it goes on, or how it ends the command. -/
def Meets (x : Run α) (s : Session) (goesOn : α → Session → Prop) (ends : Ending → Session → Prop) : Prop :=
  match x.run s with
  | (.ok a, s') => goesOn a s'
  | (.error e, s') => ends e s'

theorem Meets.of_ok {a : α} {s' : Session} (run : x.run s = (.ok a, s')) (goesOn : P a s') : x.Meets s P E := by
  rw [Meets, run]
  exact goesOn

theorem Meets.mono {P' : α → Session → Prop} {E' : Ending → Session → Prop} (meets : x.Meets s P E)
    (goesOn : ∀ a s', P a s' → P' a s') (ends : ∀ e s', E e s' → E' e s') : x.Meets s P' E' := by
  rw [Meets] at meets ⊢
  split at meets
  · exact goesOn _ _ meets
  · exact ends _ _ meets

/-- What follows a part does its work from where the part goes on. -/
theorem Meets.bind (first : x.Meets s (fun a s' => (f a).Meets s' Q E) E) : (x >>= f).Meets s Q E := by
  rw [Meets] at first ⊢
  split at first
  · rename_i a s' run
    rw [run_bind_ok run]
    exact first
  · rename_i e s' run
    rw [run_bind_error run]
    exact first

/-- The failures with an exit code that leave the workspace as it is are among these endings. -/
def AllowsFailure (code : Nat) (w : Workspace) (E : Ending → Session → Prop) : Prop :=
  ∀ e s', e.code = code → s'.workspace = w → E e s'

/-! ## Looking at files -/

theorem entryAt?_run {path : Path} :
    (entryAt? path).run s = (.ok (s.workspace.tree.find? s.workspace.here path), s) := by
  rw [entryAt?, run_bind_ok workspace_run]
  rfl

theorem database_eq {path : Path} : (database path).run s = (.ok (s.workspace.database path), s) := by
  rw [database, run_bind_ok entryAt?_run, Workspace.database]
  rcases s.workspace.tree.find? s.workspace.here path with _ | _ | (_ | _) | db <;> rfl

theorem settingsFile_eq {path : Path} :
    (settingsFile path).run s = (.ok (s.workspace.settingsFile path), s) := by
  rw [settingsFile, run_bind_ok entryAt?_run, Workspace.settingsFile]
  rcases s.workspace.tree.find? s.workspace.here path with _ | _ | content | db <;> rfl

theorem put_run {path : Path} {entry : Entry} : (put path entry).run s = (.ok (), s.putting path entry) := rfl

/-! ## Printing -/

theorem writeShown_meets {lines : Except Terminal.MarkupError (List (List Char))} {P : Unit → Session → Prop}
    (allows : AllowsFailure 1 s.workspace E) (goesOn : ∀ text, P () (s.writing text)) :
    (writeShown lines).Meets s P E := by
  cases lines with
  | ok lines => exact goesOn _
  | error e => exact allows _ _ rfl rfl

theorem print_meets {markup : String} {P : Unit → Session → Prop} (allows : AllowsFailure 1 s.workspace E)
    (goesOn : ∀ text, P () (s.writing text)) : (print markup).Meets s P E :=
  writeShown_meets allows goesOn

theorem failWith_meets {code : Nat} {markup : String} (allows : AllowsFailure 1 s.workspace E)
    (allows' : AllowsFailure code s.workspace E) : (failWith code markup : Run α).Meets s P E :=
  .bind (print_meets allows fun _ => allows' _ _ rfl rfl)

theorem fail_meets {markup : String} (allows : AllowsFailure 1 s.workspace E) :
    (fail markup : Run α).Meets s P E :=
  failWith_meets allows allows

/-! ## Values that may be missing -/

theorem unreported_meets {ε : Type} {kind : ε → Fault} {outcome : Except ε α}
    (allows : AllowsFailure 1 s.workspace E) (goesOn : ∀ a, outcome = .ok a → P a s) :
    (unreported kind outcome).Meets s P E := by
  cases outcome with
  | ok a => exact goesOn a rfl
  | error e => exact allows _ _ rfl rfl

theorem stored_meets {isReported : StoreError → Bool} {outcome : Except StoreError α}
    (allows : AllowsFailure 1 s.workspace E) (goesOn : ∀ a, outcome = .ok a → P a s) :
    (stored isReported outcome).Meets s P E := by
  cases outcome with
  | ok a => exact goesOn a rfl
  | error e =>
    rw [stored]
    split
    · exact fail_meets allows
    · exact allows _ _ rfl rfl

theorem printable_meets {text : AnyText} {P : String → Session → Prop} (allows : AllowsFailure 1 s.workspace E)
    (goesOn : ∀ shown : String, text = shown → P shown s) : (printable text).Meets s P E := by
  refine unreported_meets allows fun shown is => ?_
  rcases text.asString_cases with ⟨_, same, isOk⟩ | ⟨_, fails⟩
  · rw [isOk] at is
    cases is
    exact goesOn shown same
  · rw [fails] at is
    cases is

/-- A value is printed in JSON if its texts consist of characters. -/
theorem printJson_meets {value : Json} {P : Unit → Session → Prop} (allows : AllowsFailure 1 s.workspace E)
    (goesOn : value.IsPlain → P () (s.writing (value.chars 0 ++ ['\n']))) :
    (printJson value).Meets s P E := by
  rw [printJson]
  split
  · rename_i chars written
    have plain : value.IsPlain := (Json.isPlain_pieces value 0).mp (Written.fault_ofPieces.mp (by rw [written]))
    rw [Json.ofPieces_pieces plain] at written
    cases written
    exact goesOn plain
  · exact allows _ _ rfl rfl

theorem failAs_meets {message : AnyText} (allows : AllowsFailure 1 s.workspace E) :
    (failAs message : Run α).Meets s P E :=
  .bind (printable_meets allows fun _ _ => fail_meets allows)

theorem saved_meets {paths : ProjectPaths} {outcome : Except SavedError α}
    (allows : AllowsFailure 1 s.workspace E) (goesOn : ∀ a, outcome = .ok a → P a s) :
    (saved paths outcome).Meets s P E := by
  cases outcome with
  | ok a => exact goesOn a rfl
  | error e =>
    unfold saved
    dsimp only
    split
    · exact failAs_meets allows
    · exact failAs_meets allows
    · exact allows _ _ rfl rfl

theorem settings_meets [Json.Nesting] {path : Path} {P : Settings → Session → Prop}
    (allows : AllowsFailure 1 s.workspace E)
    (goesOn : ∀ settings, Settings.load (s.workspace.settingsFile path) = .ok settings → P settings s) :
    (settings path).Meets s P E := by
  refine .bind (.of_ok settingsFile_eq ?_)
  split
  · rename_i settings loads
    exact goesOn settings loads
  · exact fail_meets allows
  · exact allows _ _ rfl rfl

theorem projectPaths_meets {root : Option Path} {P : ProjectPaths → Session → Prop}
    (allows : AllowsFailure 1 s.workspace E)
    (goesOn : ∀ path, root = some path → s.workspace.isDirectory path → P (.ofRoot path) s) :
    (projectPaths root).Meets s P E := by
  refine .bind (.of_ok workspace_run ?_)
  split
  · rename_i path
    split
    · rename_i there
      exact goesOn path rfl there
    · exact fail_meets allows
  · exact fail_meets allows

theorem checkFormat_meets {format : Format} {P : Unit → Session → Prop}
    (allows : AllowsFailure 1 s.workspace E) (goesOn : (∀ name, format ≠ .other name) → P () s) :
    (checkFormat format).Meets s P E := by
  cases format with
  | table | json => exact goesOn (by simp)
  | other name => exact fail_meets allows

/-- An error in a query is reported with exit code 2. -/
theorem query_meets {about raw : String} {P : Query → Session → Prop} (allows : AllowsFailure 1 s.workspace E)
    (allows' : AllowsFailure 2 s.workspace E) (goesOn : ∀ q, parseQuery raw = .ok q → P q s) :
    (query about raw).Meets s P E := by
  rw [query]
  split
  · rename_i q parsed
    exact goesOn q parsed
  · exact failWith_meets allows allows'
  · exact allows _ _ rfl rfl

/-- A saved query is one of characters that can be read. -/
theorem savedQuery_meets {name : String} {text : AnyText} {P : String × Query → Session → Prop}
    (allows : AllowsFailure 1 s.workspace E) (allows' : AllowsFailure 2 s.workspace E)
    (goesOn : ∀ (raw : String) q, text = raw → parseQuery raw = .ok q → P (raw, q) s) :
    (savedQuery name text).Meets s P E := by
  cases text with
  | plain raw => exact .bind (query_meets allows allows' fun q parsed => .of_ok rfl (goesOn raw q rfl parsed))
  | broken => exact allows _ _ rfl rfl

/-- The limit for a query without one is the one that is asked for, or that of the settings. -/
def IsDefaultLimit [Json.Nesting] (w : Workspace) (paths : ProjectPaths) (asked : Option Nat) (limit : Nat) :
    Prop :=
  asked = some limit ∨ asked = none ∧
    ∃ settings, Settings.load (w.settingsFile paths.settings) = .ok settings ∧ settings.defaultLimit = limit

theorem defaultLimit_meets [Json.Nesting] {paths : ProjectPaths} {asked : Option Nat} {P : Nat → Session → Prop}
    (allows : AllowsFailure 1 s.workspace E)
    (goesOn : ∀ limit, IsDefaultLimit s.workspace paths asked limit → P limit s) :
    (defaultLimit paths asked).Meets s P E := by
  cases asked with
  | some limit => exact goesOn limit (Or.inl rfl)
  | none =>
    refine .bind (settings_meets allows fun settings loads => ?_)
    exact goesOn _ (Or.inr ⟨rfl, settings, loads, rfl⟩)

theorem execute_meets [Json.Nesting] {paths : ProjectPaths} {q : Query} {asked : Option Nat}
    {P : SearchResult → Session → Prop}
    (allows : AllowsFailure 1 s.workspace E)
    (goesOn : ∀ limit r, IsDefaultLimit s.workspace paths asked limit →
      Search.execute (s.workspace.database paths.database) q s.workspace.clock limit = .ok r → P r s) :
    (execute paths q asked).Meets s P E := by
  refine .bind (defaultLimit_meets allows fun limit isLimit => ?_)
  refine .bind (.of_ok workspace_run (.bind (.of_ok database_eq ?_)))
  exact unreported_meets allows fun r runs => goesOn limit r isLimit runs

/-- The settings file is written, or left as it is. -/
theorem changeSettings_meets {path : Path} {change : SettingsFile → Except SavedError Written}
    {P : Except SavedError Unit → Session → Prop}
    (writes : ∀ written, change (s.workspace.settingsFile path) = .ok written →
      P written.outcome (s.putting path (.file (Text.encodeUtf8 written.chars))))
    (refuses : ∀ error, change (s.workspace.settingsFile path) = .error error → P (.error error) s) :
    (changeSettings path change).Meets s P E := by
  refine .bind (.of_ok settingsFile_eq ?_)
  split
  · rename_i written changes
    exact writes written changes
  · rename_i error fails
    exact refuses error fails

/-- A search is saved in the settings file, or it is said or reported why not. -/
theorem trySave_meets [Json.Nesting] {paths : ProjectPaths} {name raw : String} {afterSearch : Bool}
    {P : Option SavedError → Session → Prop} (allows : AllowsFailure 1 s.workspace E)
    (writes : ∀ outcome content, P outcome (s.putting paths.settings (.file content)))
    (refuses : ∀ error, P (some error) s) : (trySave paths name raw afterSearch).Meets s P E := by
  refine .bind (changeSettings_meets (fun written _ => ?_) fun error _ => ?_)
  · rw [Written.outcome]
    cases written.fault with
    | none => exact writes none _
    | some fault => exact writes (some (.unencodable fault)) _
  · dsimp only
    split
    · exact refuses error
    · exact allows _ _ rfl rfl

/-! ## Command lines -/

theorem project_meets [Json.Nesting] {asked : Option Path} {plain : Bool} {P : Option Path → Session → Prop}
    (allows : AllowsFailure 1 s.workspace E) (goesOn : P (asked.or (s.workspace.find none)) s) :
    (project asked plain).Meets s P E := by
  refine .bind (.of_ok workspace_run ?_)
  dsimp only
  split
  · rename_i path found
    split
    · exact .bind (settings_meets allows fun _ _ => .of_ok rfl goesOn)
    · exact .of_ok rfl goesOn
  · exact .of_ok rfl goesOn

/-- The command of a command line that can be read is carried out on the project that it names or that is
    found, unless that cannot be looked at. -/
theorem commandLine_meets [Json.Nesting] {arguments : List String} {line : CommandLine} {wanted : Command}
    {P : Unit → Session → Prop} (reads : CommandLine.read arguments = .ok line)
    (wants : Command.read line.name line.arguments = .ok wanted) (allows : AllowsFailure 1 s.workspace E)
    (goesOn : (command line.directory (line.directory.or (s.workspace.find none)) wanted).Meets s P E) :
    (commandLine arguments).Meets s P E := by
  rw [commandLine, reads]
  refine .bind (project_meets allows ?_)
  rw [wants]
  exact goesOn

end Run

end IssueTracker
