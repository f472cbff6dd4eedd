import IssueTracker.Command.Execution
import IssueTracker.Proofs.Terminal.Markup

/-!
# Running parts of commands

What a part of a command answers in a session, and the session after it.  A part that ends the command
leaves nothing for those behind it (`run_bind_error`).
-/

namespace IssueTracker

/-- A session that has printed text, laid out for the screen. -/
def Session.printing (s : Session) (text : List Char) : Session :=
  let arrangement : Terminal.Arrangement := { columns := Terminal.screenColumns }
  { s with output := s.output ++ (arrangement.layOut text).flatMap (· ++ ['\n']) }

namespace Run

variable {α β : Type} {s s' : Session}

theorem run_bind_ok {x : Run α} {f : α → Run β} {a : α} (run : x.run s = (.ok a, s')) :
    (x >>= f).run s = (f a).run s' := by
  rw [ExceptT.run_bind]
  simp only [bind, StateT.bind, run]

theorem run_bind_error {x : Run α} {f : α → Run β} {e : Ending} (run : x.run s = (.error e, s')) :
    (x >>= f).run s = (.error e, s') := by
  rw [ExceptT.run_bind]
  simp only [bind, StateT.bind, run]
  rfl

theorem workspace_run : workspace.run s = (.ok s.workspace, s) := rfl

theorem print_run {markup : String} {text : List Char} (shows : Terminal.shown markup = .ok text) :
    (print markup).run s = (.ok (), s.printing text) := by
  simp only [print, shows]
  rfl

theorem failWith_run {code : Nat} {markup : String} {text : List Char}
    (shows : Terminal.shown ("[bold red]Error:[/] " ++ markup) = .ok text) :
    (failWith code markup : Run α).run s = (.error (.exit code), s.printing text) :=
  run_bind_ok (print_run shows)

theorem checkFormat_run {format : Format} (known : ∀ name, format ≠ .other name) :
    (checkFormat format).run s = (.ok (), s) := by
  cases format with
  | table | json => rfl
  | other name => exact absurd rfl (known name)

theorem projectPaths_run {root : Path} (there : s.workspace.isDirectory root) :
    (projectPaths (some root)).run s = (.ok (.ofRoot root), s) := by
  rw [projectPaths, run_bind_ok workspace_run]
  simp only [there, if_true]
  rfl

theorem settingsFile_run {path : Path} {content : Bytes}
    (there : s.workspace.tree.find? s.workspace.here path = some (.file content)) :
    (settingsFile path).run s = (.ok (.content content), s) := by
  have entry : (entryAt? path).run s = (.ok (some (.file content)), s) := by
    rw [entryAt?, run_bind_ok workspace_run, there]
    rfl
  rw [settingsFile, run_bind_ok entry]
  rfl

end Run

end IssueTracker
