import IssueTracker.Files.Path
import IssueTracker.Settings.Basic
import IssueTracker.Store.Document
import IssueTracker.Text.Quoted

/-!
# Directory trees

A tree keeps what there is at each place, a place being the names that lead to it from the root.
The root is always a directory.
-/

namespace IssueTracker

/-- What there is at a place. -/
inductive Entry
  | directory
  | file (content : Bytes)
  | database (db : Database)
deriving Repr, DecidableEq

/-- The bytes that an entry is kept as; there are none for a directory. -/
def Entry.content? : Entry → Option Bytes
  | directory => none
  | file content => some content
  | database db => some db.content

/-- Why a directory cannot be made at a path. -/
inductive FileError
  /-- There is nothing on the way to it. -/
  | missing (path : Path)
  /-- Something else is in its place. -/
  | occupied (path : Path)
  /-- Something else is on the way to it. -/
  | blocked (path : Path)
deriving Repr, DecidableEq

/-- What is reported of a directory that cannot be made. -/
def FileError.message : FileError → String
  | missing path => "[Errno 2] No such file or directory: " ++ Text.literal path.text
  | occupied path => "[Errno 17] File exists: " ++ Text.literal path.text
  | blocked path => "[Errno 20] Not a directory: " ++ Text.literal path.text

/-- Why names lead nowhere. -/
inductive Obstacle
  /-- There is nothing of a name. -/
  | nothing
  /-- What has a name is no directory, but another name follows. -/
  | noDirectory
deriving Repr, DecidableEq

/-- A directory tree. -/
structure Tree where
  entries : List (Place × Entry) := []
deriving Repr, DecidableEq

namespace Tree

/-- What there is at a place, if anything. -/
def entryAt? (t : Tree) (place : Place) : Option Entry :=
  if place = [] then some .directory
  else (t.entries.find? (·.1 == place)).map Prod.snd

/-- Whether there is a directory at a place. -/
def isDirectoryAt (t : Tree) (place : Place) : Bool := t.entryAt? place == some .directory

/-- The tree with an entry at a place, in the stead of what was there. -/
def put (t : Tree) (place : Place) (entry : Entry) : Tree :=
  ⟨(place, entry) :: t.entries.filter (·.1 != place)⟩

/-- The place that names lead to from a place, each of which is looked up in a directory. -/
def walk (t : Tree) (place : Place) : List String → Except Obstacle Place
  | [] => .ok place
  | name :: names =>
    match t.entryAt? place with
    | some .directory => t.walk (Path.step place name) names
    | some _ => .error .noDirectory
    | none => .error .nothing

/-- The place that a path leads to from a directory. -/
def place? (t : Tree) (directory : Place) (path : Path) : Option Place :=
  (t.walk [] (path.under directory).names).toOption

/-- Whether a path leads to a directory. -/
def isDirectory (t : Tree) (directory : Place) (path : Path) : Bool :=
  match t.place? directory path with
  | some place => t.isDirectoryAt place
  | none => false

/-- What a path leads to, if anything. -/
def find? (t : Tree) (directory : Place) (path : Path) : Option Entry :=
  (t.place? directory path).bind t.entryAt?

/-- The tree with the directory that a path leads to, for which the way to it has to be there. -/
def makeLast (t : Tree) (directory : Place) (path : Path) : Except FileError Tree :=
  match t.walk [] (path.under directory).names with
  | .error .nothing => .error (.missing path)
  | .error .noDirectory => .error (.blocked path)
  | .ok place =>
    match t.entryAt? place with
    | some .directory => .ok t
    | some _ => .error (.occupied path)
    | none => .ok (t.put place .directory)

/-- The tree with the directory that a path leads to and those above it, and whether they could all
    be made.  Those that were made before one could not be stay. -/
def makeDirectory (t : Tree) (directory : Place) (path : Path) : Except FileError Unit × Tree :=
  match t.makeLast directory path with
  | .ok t => (.ok (), t)
  | .error (.missing _) =>
    if path.names = [] then (.error (.missing path), t)
    else
      match t.makeDirectory directory path.parent with
      | (.error error, t) => (.error error, t)
      | (.ok (), t) =>
        match t.makeLast directory path with
        | .ok t => (.ok (), t)
        | .error error => (.error error, t)
  | .error error => (.error error, t)
termination_by path.names.length
decreasing_by
  simp only [Path.parent, List.length_dropLast]
  have : path.names.length ≠ 0 := by simpa using ‹¬path.names = []›
  omega

/-- The tree with an entry where a path leads to; without a way there it stays as it is. -/
def write (t : Tree) (directory : Place) (path : Path) (entry : Entry) : Tree :=
  match t.place? directory path with
  | some place => t.put place entry
  | none => t

/-- The content of the plain file that a path leads to. -/
def read? (t : Tree) (directory : Place) (path : Path) : Option Bytes :=
  match t.find? directory path with
  | some (.file content) => some content
  | _ => none

/-- The entries that a tree has and another one had not, a directory before what is in it. -/
def changesSince (t before : Tree) : List (Place × Entry) :=
  (t.entries.filter fun (place, entry) => before.entryAt? place != some entry).mergeSort
    fun a b => a.1.length ≤ b.1.length

end Tree

end IssueTracker
