import IssueTracker.Json.Printer
import IssueTracker.Json.Reader
import IssueTracker.Text.Numeral
import IssueTracker.Text.Quoted
import IssueTracker.Text.Utf8

/-!
# Project settings

The settings of a project are kept in a JSON file: its name, the limit for searches without one,
whether output is coloured, and the saved searches.  A file that is missing stands for the defaults.
-/

namespace IssueTracker

/-- The text of a file, its line ends unified. -/
def readText (content : Bytes) : Except Text.Utf8Fault (List Char) :=
  (Text.decodeUtf8 content).map Text.unifyLineEnds

/-- The name of the application, and of a project that has no other. -/
def applicationName : String := "issuemap"

/-- The settings of a project. -/
structure Settings where
  /-- The project's name, usually a string. -/
  name : Json := .string applicationName
  /-- The most results of a search without a limit; zero for all. -/
  defaultLimit : Nat := 50
  colors : Bool := true
  /-- The saved searches by name, each name once. -/
  savedSearches : List (AnyText × AnyText) := []

/-- What there is in the place of the settings file. -/
inductive SettingsFile
  | missing
  | content (content : Bytes)
  | directory
deriving Repr, DecidableEq

/-- What is wrong with a settings file. -/
inductive SettingsFault
  | syntaxError (problem : Json.Problem) (place : Json.Place)
  | notAnObject
  | savedNotAnObject
  | limitNotInteger
  | limitNegative
deriving Repr, DecidableEq

/-- Why settings cannot be read. -/
inductive SettingsError
  | fault (fault : SettingsFault)
  /-- A directory is in the place of the file. -/
  | isDirectory
  | undecodable (fault : Text.Utf8Fault)
  /-- A whole number of more digits than a numeral may have. -/
  | longNumber (numeral : Text.LongNumeral)
  /-- Too many arrays and objects inside one another. -/
  | tooDeep (overflow : Json.Overflow)
  /-- A limit without end. -/
  | infiniteLimit
deriving Repr, DecidableEq

/-- What is reported of a fault in the settings file at a path. -/
def SettingsFault.message (path : String) : SettingsFault → String
  | syntaxError problem place =>
    "Config file " ++ path ++ " is not valid JSON: " ++ Json.syntaxMessage problem place
  | notAnObject => "Config file " ++ path ++ " must contain a JSON object"
  | savedNotAnObject => "saved_searches in " ++ path ++ " must be an object"
  | limitNotInteger => "default_limit in " ++ path ++ " must be an integer"
  | limitNegative => "default_limit in " ++ path ++ " must not be negative"

/-- What is reported of settings that cannot be read. -/
def SettingsError.message (path : String) : SettingsError → String
  | fault f => f.message path
  | isDirectory => "[Errno 21] Is a directory: " ++ Text.literal path
  | undecodable f => f.message
  | longNumber numeral => numeral.message
  | tooDeep overflow => Json.depthMessage overflow
  | infiniteLimit => "cannot convert float infinity to integer"

namespace Settings

/-! ## Reading -/

/-- The limit that a value stands for: a whole number, a truth value as one or zero, a fraction
    rounded toward zero, or a text that writes a whole number. -/
def limitOf : Json → Except SettingsError Int
  | .integer n => .ok n
  | .bool value => .ok (if value then 1 else 0)
  | .float (.infinity _) => .error .infiniteLimit
  | .float x => (x.truncate?.map .ok).getD (.error (.fault .limitNotInteger))
  | .string text =>
    ((text.plain?.bind fun text => Text.wholeNumber? text.toList).map .ok).getD
      (.error (.fault .limitNotInteger))
  | _ => .error (.fault .limitNotInteger)

/-- The saved searches in a value; one that counts as false stands for none. -/
def savedOf (value : Json) : Except SettingsError (List (AnyText × AnyText)) :=
  if !value.isTruthy then .ok []
  else match value with
    | .object members => .ok (members.map fun (name, query) => (name, query.asText))
    | _ => .error (.fault .savedNotAnObject)

/-- The settings in a JSON value. -/
def ofJson (value : Json) : Except SettingsError Settings :=
  match value with
  | .object members => do
    let defaults : Settings := {}
    let savedSearches ← savedOf ((Json.member? "saved_searches" members).getD .null)
    let limit ←
      limitOf ((Json.member? "default_limit" members).getD (.integer defaults.defaultLimit))
    if limit < 0 then .error (.fault .limitNegative)
    else .ok {
      name := (Json.member? "name" members).getD defaults.name
      defaultLimit := limit.toNat
      colors := ((Json.member? "colors" members).map Json.isTruthy).getD defaults.colors
      savedSearches }
  | _ => .error (.fault .notAnObject)

/-- The settings in the text of a file. -/
def ofText [Json.Nesting] (text : List Char) : Except SettingsError Settings :=
  match Json.read text with
  | .error (.syntaxError problem place) => .error (.fault (.syntaxError problem place))
  | .error (.longNumber numeral) => .error (.longNumber numeral)
  | .error (.tooDeep overflow) => .error (.tooDeep overflow)
  | .ok value => ofJson value

/-- The settings in a file; a missing file stands for the defaults. -/
def load [Json.Nesting] (file : SettingsFile) : Except SettingsError Settings :=
  match file with
  | .missing => .ok {}
  | .directory => .error .isDirectory
  | .content content =>
    match readText content with
    | .error fault => .error (.undecodable fault)
    | .ok text => ofText text

/-! ## Writing -/

/-- The JSON value of a settings file with these parts. -/
def document (name defaultLimit colors : Json) (savedSearches : List (AnyText × Json)) : Json :=
  .object [("name", name), ("default_limit", defaultLimit), ("colors", colors),
    ("saved_searches", .object (Json.lastValues savedSearches))]

/-- Settings as a JSON value. -/
def toJson (s : Settings) : Json :=
  document s.name (.integer s.defaultLimit) (.bool s.colors)
    (s.savedSearches.map fun (name, query) => (name, .string query))

/-- What becomes of a JSON value that is written to the file. -/
def write (value : Json) : Written := .ofPieces (value.pieces 0)

/-- What becomes of settings that are written to their file. -/
def save (s : Settings) : Written := write s.toJson

end Settings

/-- The settings file that something was written to, as far as it was. -/
def SettingsFile.ofWritten (w : Written) : SettingsFile := .content (Text.encodeUtf8 w.chars)

end IssueTracker
