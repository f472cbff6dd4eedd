import IssueTracker.Files.Tree

/-!
# Where a project is

A project is kept in a directory named `.issuemap`.  It is searched for from a directory upward; an
environment variable overrides the search.
-/

namespace IssueTracker

/-- The name of the directory that keeps a project. -/
def projectDirectoryName : String := ".issuemap"

/-- The name of the environment variable that overrides the search. -/
def overrideVariable : String := "ISSUEMAP_DIR"

/-- The name of the database in a project directory. -/
def databaseName : String := "issues.db"

/-- The name of the settings file in a project directory. -/
def settingsName : String := "config.json"

/-- The entry of a file by its name: what is named as a database and holds one is one. -/
def Entry.ofFile (name : String) (content : Bytes) : Entry :=
  match if name = databaseName then Database.ofContent? content else none with
  | some db => .database db
  | none => .file content

/-- What a search for a project depends on. -/
structure Surroundings where
  tree : Tree := {}
  /-- The working directory. -/
  here : Place
  /-- The path that overrides the search; an empty one does not. -/
  override : Option String := none
deriving Repr, DecidableEq

/-- The paths of a project. -/
structure ProjectPaths where
  root : Path
  database : Path
  settings : Path
deriving Repr, DecidableEq

namespace ProjectPaths

/-- The paths of the project that a directory keeps. -/
def ofRoot (root : Path) : ProjectPaths :=
  { root, database := root.child databaseName, settings := root.child settingsName }

end ProjectPaths

namespace Surroundings

/-- The path that overrides the search, if it is set. -/
def override? (s : Surroundings) : Option Path :=
  match s.override with
  | none | some "" => none
  | some text => some (.ofString text)

/-- Whether a path leads to a directory. -/
def isDirectory (s : Surroundings) (path : Path) : Bool := s.tree.isDirectory s.here path

/-- The project directory nearest to a directory, in it or in one above. -/
def nearest (s : Surroundings) (start : Path) : Option Path :=
  (start.ancestors.map (·.child projectDirectoryName)).find? s.isDirectory

/-- The project directory that commands work on, searched for from `start` or from here. -/
def find (s : Surroundings) (start : Option Path) : Option Path :=
  match s.override? with
  | some path => some path
  | none => s.nearest ((start.getD ⟨0, []⟩).resolve s.here)

/-- Where a new project is kept: at the path that is asked for, else where the search is
    overridden to, else here. -/
def initTarget (s : Surroundings) (asked : Option Path) : Path :=
  match asked, s.override? with
  | some path, _ => path
  | none, some path => path
  | none, none => ⟨1, s.here ++ [projectDirectoryName]⟩

/-- The directories that may keep the project of commands for which a directory is asked for, or
    none is. -/
def candidates (s : Surroundings) (asked : Option Path) : List Path :=
  asked.toList ++ s.override?.toList ++
    (Path.ancestors ⟨1, s.here⟩).map (·.child projectDirectoryName)

/-- The places that such commands may look at, those on the way first. -/
def places (s : Surroundings) (asked : Option Path) : List Place :=
  ((s.candidates asked).flatMap fun root =>
    let paths := ProjectPaths.ofRoot (root.under s.here)
    Path.trail paths.database.names ++ Path.trail paths.settings.names).eraseDups

end Surroundings

end IssueTracker
