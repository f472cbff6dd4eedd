import IssueTracker.Text.Blank

/-!
# Paths

A path is a list of names after no slash (it is relative), one or two.  Empty names and `.` are
dropped when a path is read; `..` stays until the path is resolved.
-/

namespace IssueTracker

/-- The names that lead to a place from the root. -/
abbrev Place := List String

/-- A path of the file system. -/
structure Path where
  /-- The slashes that it starts with: none when it is relative, else one or two. -/
  slashes : Nat
  names : List String
deriving Repr, DecidableEq

namespace Path

/-- A name that says nothing about where a path leads. -/
def isVoid (name : String) : Bool := name == "" || name == "."

/-- The path in a text.  Three slashes or more at the start count as one. -/
def ofString (text : String) : Path :=
  let slashes := (text.toList.takeWhile (· == '/')).length
  { slashes := if 2 < slashes then 1 else slashes
    names := ((Text.pieces (· == '/') text.toList).map String.ofList).filter (!isVoid ·) }

/-- Whether a text can be a path: it has no NUL. -/
def isPossible (text : String) : Bool := !text.toList.contains '\x00'

/-- A path as it is shown. -/
def text (p : Path) : String :=
  if p.slashes = 0 ∧ p.names = [] then "."
  else String.ofList (List.replicate p.slashes '/') ++ "/".intercalate p.names

/-- Whether a path starts at the root. -/
def isAbsolute (p : Path) : Bool := 0 < p.slashes

/-- A path as it is from the root, where a relative one starts at a directory. -/
def under (p : Path) (directory : Place) : Path :=
  if p.isAbsolute then p else ⟨1, directory ++ p.names⟩

/-- The path without its last name. -/
def parent (p : Path) : Path := { p with names := p.names.dropLast }

/-- The path of a name in a directory. -/
def child (p : Path) (name : String) : Path := { p with names := p.names ++ [name] }

/-- One name further on; `..` takes the last name back, and at the root leads nowhere. -/
def step (names : List String) (name : String) : List String :=
  if name = ".." then names.dropLast else names ++ [name]

/-- Where names lead from the root: the places after the first name, after the second, and so on. -/
def trail (names : List String) : List (List String) :=
  (List.range names.length).map fun i => (names.take (i + 1)).foldl step []

/-- An absolute path with one slash and without `..`. -/
def resolve (p : Path) (directory : Place) : Path := ⟨1, (p.under directory).names.foldl step []⟩

/-- A list and what is left of it after one element, after two, and so on. -/
def rests : List String → List (List String)
  | [] => [[]]
  | name :: names => (name :: names) :: rests names

/-- A path and the directories above it, nearest first. -/
def ancestors (p : Path) : List Path :=
  (rests p.names.reverse).map fun names => { p with names := names.reverse }

end Path

end IssueTracker
