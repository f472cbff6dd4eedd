import IssueTracker.Json.Printer
import IssueTracker.Location
import IssueTracker.Search
import IssueTracker.Terminal.Table

/-!
# Sessions

A command works in a session: it sees and changes a directory tree, prints, and ends with an exit
code or with an error that it does not report itself.  What was printed before the end stays.
-/

namespace IssueTracker

/-- Where commands are run. -/
structure Workspace extends Surroundings where
  clock : Moment
  /-- The name of the user. -/
  user : String
deriving DecidableEq

/-- An error that a command does not report itself. -/
inductive Fault
  | failure (failure : Failure)
  | markup (error : Terminal.MarkupError)
  | files (error : FileError)
  /-- A text has no encoding to be printed in. -/
  | unprintable (text : AnyText)
deriving Repr, DecidableEq

/-- What is said of an error that a command does not report itself. -/
def Fault.message : Fault → AnyText
  | failure error => error.message settingsName
  | markup error => error.message
  | files error => error.message
  | unprintable text => (text.fault?.map EncodeFault.message).getD ""

/-- How a command ends. -/
inductive Ending
  | exit (code : Nat)
  /-- There is nothing left to read that would answer a question. -/
  | unanswered
  | fault (fault : Fault)
deriving Repr, DecidableEq

/-- The exit code of a program that ends with its command. -/
def Ending.code : Ending → Nat
  | exit code => code
  | unanswered | fault _ => 1

/-- A session under way. -/
structure Session where
  workspace : Workspace
  /-- What there is to read from standard input. -/
  input : List Char
  /-- What has been printed. -/
  output : List Char := []
deriving DecidableEq

/-- A part of a command: it answers a value or ends the command. -/
abbrev Run (α : Type) : Type := ExceptT Ending (StateM Session) α

namespace Run

variable {α : Type}

/-- Ends the command with an exit code. -/
def exit (code : Nat) : Run α := throw (.exit code)

/-- Ends the command with an error that it does not report. -/
def fault (error : Fault) : Run α := throw (.fault error)

/-- A value, or the error there is in its place. -/
def unreported {ε : Type} (kind : ε → Fault) : Except ε α → Run α
  | .ok value => pure value
  | .error error => fault (kind error)

/-- Where the command is run. -/
def workspace : Run Workspace := Session.workspace <$> get

/-! ## Printing -/

/-- Prints text as it is. -/
def write (text : List Char) : Run Unit := modify fun s => { s with output := s.output ++ text }

/-- Prints lines. -/
def writeLines (lines : List (List Char)) : Run Unit := write (lines.flatMap (· ++ ['\n']))

/-- Prints lines of markup that is shown, or fails where it cannot be. -/
def writeShown (lines : Except Terminal.MarkupError (List (List Char))) : Run Unit := do
  writeLines (← unreported .markup lines)

/-- Prints markup, and a line end. -/
def print (markup : String) : Run Unit :=
  let arrangement : Terminal.Arrangement := { columns := Terminal.screenColumns }
  writeShown ((Terminal.shown markup).map arrangement.layOut)

/-- The characters of a text that is to be printed. -/
def printable (text : AnyText) : Run String := unreported .unprintable text.asString

/-- Prints a JSON value, and a line end. -/
def printJson (value : Json) : Run Unit :=
  match Written.ofPieces (value.pieces 0) with
  | ⟨chars, none⟩ => write (chars ++ ['\n'])
  | ⟨_, some _⟩ => fault (.unprintable value.text)

/-- Prints an error message in markup and ends the command with an exit code. -/
def failWith (code : Nat) (markup : String) : Run α := do
  print ("[bold red]Error:[/] " ++ markup)
  exit code

/-- Prints an error message in markup and ends the command with exit code 1. -/
def fail (markup : String) : Run α := failWith 1 markup

/-! ## The project -/

/-- What there is at a path. -/
def entryAt? (path : Path) : Run (Option Entry) := do
  let w ← workspace
  return w.tree.find? w.here path

/-- Keeps an entry at a path. -/
def put (path : Path) (entry : Entry) : Run Unit :=
  modify fun s =>
    { s with workspace.tree := s.workspace.tree.write s.workspace.here path entry }

/-- The database at a path.  An empty file is one without tables. -/
def database (path : Path) : Run Database := do
  match ← entryAt? path with
  | some (.database db) => return db
  | none | some (.file []) => return .blank
  | some (.file _) => return .foreign
  | some .directory => return .unreachable

/-- What there is of a settings file at a path. -/
def settingsFile (path : Path) : Run SettingsFile := do
  match ← entryAt? path with
  | some (.file content) => return .content content
  | some (.database db) => return .content db.content
  | some .directory => return .directory
  | none => return .missing

/-- Keeps at a path what is written of settings, and answers whether that is all. -/
def putSettings (path : Path) (written : Written) : Run (Except SavedError Unit) := do
  put path (.file (Text.encodeUtf8 written.chars))
  return written.outcome

/-- Changes the settings file at a path, and answers why it is not changed if it is not. -/
def changeSettings (path : Path) (change : SettingsFile → Except SavedError Written) :
    Run (Except SavedError Unit) := do
  match change (← settingsFile path) with
  | .ok written => putSettings path written
  | .error error => return .error error

end Run

end IssueTracker
