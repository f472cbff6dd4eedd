import IssueTracker.Command.Execution
import Std.Time.Zoned

/-!
# The program

The program carries out its command line in the place it is started in.  What the command may look
at is read before, and what it has changed is written after it.
-/

namespace IssueTracker.Main

/-- The present on the local clock, to the second. -/
def present : IO Moment := do
  let t ← Std.Time.PlainDateTime.now
  match Date.make t.year.toInt.toNat t.month.val.toNat t.day.val.toNat,
      TimeOfDay.make t.hour.val.toNat t.minute.val.toNat t.second.val.toNat 0 with
  | .ok date, .ok time => return { date, time, offset := none }
  | .error error, _ | _, .error error => throw (IO.userError error.message)

/-- The name of the user. -/
def userName : IO String := do
  let names ← ["LOGNAME", "USER", "LNAME", "USERNAME"].filterMapM fun name => IO.getEnv name
  return (names.find? (· ≠ "")).getD ""

/-- The path of a place. -/
def pathText (place : Place) : String := Path.text ⟨1, place⟩

/-- What there is at a place, if anything. -/
def entryAt? (place : Place) : IO (Option Entry) := do
  try
    return some (.ofFile (place.getLastD "") (← IO.FS.readBinFile (pathText place)).toList)
  catch
    | .inappropriateType .. => return some .directory
    | _ => return none

/-- The tree of what there is at some places. -/
def treeAt (places : List Place) : IO Tree :=
  places.foldlM (fun tree place => do
    match ← entryAt? place with
    | some entry => return tree.put place entry
    | none => return tree) {}

/-- Keeps an entry at a place. -/
def keep (place : Place) (entry : Entry) : IO Unit :=
  match entry.content? with
  | none => IO.FS.createDir (pathText place)
  | some content => IO.FS.writeBinFile (pathText place) ⟨content.toArray⟩

/-- Carries out a command line, reading the input only as far as it is asked for. -/
partial def converse (w : Workspace) (arguments : List String) (input : List Char)
    (printed : Nat) : IO (Ending × Session) := do
  let (ending, session) := w.run input arguments
  let output ← IO.getStdout
  output.putStr (String.ofList (session.output.drop printed))
  output.flush
  if ending ≠ .unanswered then return (ending, session)
  let line ← (← IO.getStdin).getLine
  if line.isEmpty then return (ending, session)
  converse w arguments (input ++ line.toList) session.output.length

end IssueTracker.Main

open IssueTracker in
/-- Runs the program; its result is the exit code. -/
def main (arguments : List String) : IO UInt32 := do
  let surroundings : Surroundings := {
    here := (Path.ofString (toString (← IO.currentDir))).names
    override := ← IO.getEnv overrideVariable }
  let asked := match CommandLine.read arguments with
    | .ok line => line.directory
    | .error _ => none
  let tree ← Main.treeAt (surroundings.places asked)
  let w : Workspace := {
    surroundings with tree, clock := ← Main.present, user := ← Main.userName }
  let (ending, session) ← Main.converse w arguments [] 0
  for (place, entry) in session.workspace.tree.changesSince tree do
    Main.keep place entry
  if let .fault fault := ending then IO.eprintln fault.message.escaped
  return ending.code.toUInt32
