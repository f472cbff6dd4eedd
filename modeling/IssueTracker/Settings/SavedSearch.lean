import IssueTracker.Settings.Basic

/-!
# Saved searches

Searches are saved under a name as they were typed.  Each operation reads the settings file, changes
one entry and writes the whole file anew.  Whatever cannot be encoded cuts the file off where it
stands.
-/

namespace IssueTracker

/-- Why an operation on saved searches fails. -/
inductive SavedError
  | nameRequired
  | notFound (name : AnyText)
  | settings (error : SettingsError)
  /-- The settings cannot be written as a whole. -/
  | unencodable (fault : EncodeFault)
deriving Repr, DecidableEq

namespace SavedSearch

variable [Json.Nesting]

/-- The settings in a file. -/
def settings (file : SettingsFile) : Except SavedError Settings :=
  (Settings.load file).mapError .settings

/-- The query that is saved under a name. -/
def find? (name : AnyText) (saved : List (AnyText × AnyText)) : Option AnyText :=
  (saved.find? (·.1 == name)).map Prod.snd

/-- Saves a query under a name without the blanks around it, in the place of one that is there, and
    answers what is written. -/
def save (file : SettingsFile) (name : Option AnyText) (raw : AnyText) :
    Except SavedError Written := do
  let name := (name.getD "").strip
  if name = "" then .error .nameRequired
  else
    let s ← settings file
    return { s with savedSearches := Json.setMember name raw s.savedSearches }.save

/-- The query that is saved under exactly this name. -/
def load (file : SettingsFile) (name : AnyText) : Except SavedError AnyText := do
  match find? name (← settings file).savedSearches with
  | some raw => return raw
  | none => .error (.notFound name)

/-- The saved searches, in stored order. -/
def list (file : SettingsFile) : Except SavedError (List (AnyText × AnyText)) := do
  return (← settings file).savedSearches

/-- Deletes the query that is saved under exactly this name, and answers what is written. -/
def delete (file : SettingsFile) (name : AnyText) : Except SavedError Written := do
  let s ← settings file
  match find? name s.savedSearches with
  | none => .error (.notFound name)
  | some _ =>
    return { s with savedSearches := s.savedSearches.filter (·.1 != name) }.save

end SavedSearch

/-- Whether something was written as a whole. -/
def Written.outcome (w : Written) : Except SavedError Unit :=
  match w.fault with
  | none => .ok ()
  | some fault => .error (.unencodable fault)

/-- How a change of the settings file ends, and what it leaves.  A change that fails before anything
    is written leaves the file as it is. -/
def SettingsFile.change (file : SettingsFile) (changed : Except SavedError Written) :
    Except SavedError Unit × SettingsFile :=
  match changed with
  | .ok written => (written.outcome, .ofWritten written)
  | .error error => (.error error, file)

/-- What is reported of a failed operation on the saved searches of the file at a path. -/
def SavedError.message (path : String) : SavedError → AnyText
  | nameRequired => "Saved search name is required"
  | notFound name => ("saved search '" : AnyText) ++ name ++ ("' not found" : AnyText)
  | settings error => error.message path
  | unencodable fault => fault.message

end IssueTracker
