import IssueTracker.Command.Arguments
import IssueTracker.Command.Number
import IssueTracker.Files.Path
import IssueTracker.Store.Database

/-!
# Commands

What the command line can be asked to do, and reading it from arguments.
-/

namespace IssueTracker

/-- How a command shows its answer. -/
inductive Format
  | table
  | json
  | other (name : String)
deriving Repr, DecidableEq

/-- The format with a name. -/
def Format.ofName (name : String) : Format :=
  if name = "table" then .table else if name = "json" then .json else .other name

/-- How a search is run and shown. -/
structure SearchOptions where
  format : Format := .table
  /-- The limit for a query without one, in the place of the one in the settings. -/
  limit : Option Nat := none
deriving Repr, DecidableEq

/-- A command. -/
inductive Command
  | init (name : String)
  /-- `mine` assigns the issue to the user. -/
  | create (issue : NewIssue) (mine : Bool)
  | list (status : Option String) (all : Bool) (format : Format)
  | labels (format : Format)
  | inspect (id : Int) (format : Format)
  | edit (id : Int) (changes : Changes)
  | setStatus (id : Int) (status : String)
  | close (id : Int)
  | reopen (id : Int)
  /-- Asks first, unless the deletion is `confirmed`. -/
  | delete (id : Int) (confirmed : Bool)
  | search (raw : String) (options : SearchOptions) (saveAs : Option String)
  /-- Shows what a query means. -/
  | explain (raw : String) (format : Format)
  | saveSearch (name raw : String)
  | runSearch (name : String) (options : SearchOptions)
  | listSearches (format : Format)
  | deleteSearch (name : String)
deriving DecidableEq

/-- Why a command line asks for no command. -/
inductive NoCommand
  | version
  | help
  /-- It cannot be understood. -/
  | misuse
deriving Repr, DecidableEq

namespace Command

/-! ## Options -/

def helpOption : CommandOption := { long := "--help", takesValue := false }
def formatOption : CommandOption := { long := "--format", short := some 'f' }
def limitOption : CommandOption := { long := "--limit" }
def titleOption : CommandOption := { long := "--title" }

/-- The options for the fields of an issue other than its title. -/
def fieldOptions : List CommandOption :=
  [{ long := "--description", short := some 'd' }, { long := "--type", short := some 't' },
   { long := "--priority", short := some 'p' }, { long := "--assignee", short := some 'a' },
   { long := "--branch", short := some 'b' }, { long := "--labels", short := some 'l' }]

/-- The format that is asked for; a table when none is. -/
def formatOf (a : Arguments) : Format := .ofName ((a.value? "--format").getD "table")

/-- How a search is to be run and shown, unless its limit is no number or is negative. -/
def searchOptions? (a : Arguments) : Option SearchOptions :=
  match a.value? "--limit" with
  | none => some { format := formatOf a }
  | some text =>
    match number? text with
    | some (.ofNat limit) => some { format := formatOf a, limit := some limit }
    | _ => none

/-- The labels that an option gives. -/
def labelsOf (a : Arguments) : LabelList :=
  (a.value? "--labels").map fun text => (splitLabels text).map some

/-- The issue that is to be created. -/
def newIssueOf (title : String) (a : Arguments) : NewIssue :=
  let blank : NewIssue := { title := some title }
  { title := some title
    description := (a.value? "--description").or blank.description
    type := (a.value? "--type").or blank.type
    priority := (a.value? "--priority").or blank.priority
    assignee := (a.value? "--assignee").or blank.assignee
    branch := (a.value? "--branch").or blank.branch
    labels := labelsOf a }

/-- The changes that are to be made to an issue. -/
def changesOf (a : Arguments) : Changes :=
  { title := a.value? "--title"
    description := a.value? "--description"
    type := a.value? "--type"
    priority := a.value? "--priority"
    assignee := a.value? "--assignee"
    branch := a.value? "--branch"
    labels := labelsOf a }

/-! ## Forms -/

/-- How a command is written. -/
structure Form where
  options : List CommandOption := []
  /-- The command with these arguments, if they are as many and of the kind that it takes. -/
  command? : Arguments → Option Command

/-- Reads the arguments of a command. -/
def Form.read (form : Form) (arguments : List String) : Except NoCommand Command :=
  match Arguments.read? (helpOption :: form.options) true arguments with
  | none => .error .misuse
  | some a =>
    if a.has "--help" then .error .help
    else match form.command? a with
      | some command => .ok command
      | none => .error .misuse

/-- A command about one issue, without options. -/
def idForm (command : Int → Command) : Form where
  command? a := match a.positional with
    | [id] => (number? id).map command
    | _ => none

/-- The commands by name. -/
def forms : List (String × Form) :=
  [("init", {
      options := [{ long := "--name", short := some 'n' }]
      command? := fun a => match a.positional with
        | [] => some (init ((a.value? "--name").getD ""))
        | _ => none }),
   ("create", {
      options := { long := "--me", takesValue := false } :: fieldOptions
      command? := fun a => match a.positional with
        | [title] => some (create (newIssueOf title a) (a.has "--me"))
        | _ => none }),
   ("list", {
      options := [{ long := "--status", short := some 's' },
        { long := "--all", takesValue := false }, formatOption]
      command? := fun a => match a.positional with
        | [] => some (list (a.value? "--status") (a.has "--all") (formatOf a))
        | _ => none }),
   ("labels", {
      options := [formatOption]
      command? := fun a => match a.positional with
        | [] => some (labels (formatOf a))
        | _ => none }),
   ("show", {
      options := [formatOption]
      command? := fun a => match a.positional with
        | [id] => (number? id).map (inspect · (formatOf a))
        | _ => none }),
   ("edit", {
      options := titleOption :: fieldOptions
      command? := fun a => match a.positional with
        | [id] => (number? id).map (edit · (changesOf a))
        | _ => none }),
   ("status", {
      command? := fun a => match a.positional with
        | [id, status] => (number? id).map (setStatus · status)
        | _ => none }),
   ("close", idForm close),
   ("reopen", idForm reopen),
   ("delete", {
      options := [{ long := "--yes", short := some 'y', takesValue := false }]
      command? := fun a => match a.positional with
        | [id] => (number? id).map (delete · (a.has "--yes"))
        | _ => none }),
   ("search", {
      options := [{ long := "--save" }, { long := "--explain", takesValue := false }, formatOption,
        limitOption]
      command? := fun a => match a.positional, searchOptions? a with
        | [raw], some options =>
          if a.has "--explain" then some (explain raw options.format)
          else some (search raw options (a.value? "--save"))
        | _, _ => none })]

/-- The commands about saved searches, by name. -/
def savedForms : List (String × Form) :=
  [("save", {
      command? := fun a => match a.positional with
        | [name, raw] => some (saveSearch name raw)
        | _ => none }),
   ("run", {
      options := [formatOption, limitOption]
      command? := fun a => match a.positional with
        | [name] => (searchOptions? a).map (runSearch name)
        | _ => none }),
   ("list", {
      options := [formatOption]
      command? := fun a => match a.positional with
        | [] => some (listSearches (formatOf a))
        | _ => none }),
   ("delete", {
      command? := fun a => match a.positional with
        | [name] => some (deleteSearch name)
        | _ => none })]

/-- The name before the commands about saved searches. -/
def savedName : String := "saved"

/-- Whether a command line may go on after a name. -/
def isKnown (name : String) : Bool := name == savedName || (forms.lookup name).isSome

/-- What is asked for in place of a command by the first option among arguments that does so. -/
def inPlaceOfCommand? (a : Arguments) : Option NoCommand :=
  (a.options.find? fun o => o.long == "--version" || o.long == "--help").map fun o =>
    if o.long = "--version" then .version else .help

/-- Why there is no command of the name that begins arguments.  What follows `--` may still be
    options that ask for something in place of a command. -/
def unknownName (known : List CommandOption) (arguments : List String) : NoCommand :=
  ((Arguments.read? known false arguments).bind inPlaceOfCommand?).getD .misuse

/-- Reads a command about saved searches. -/
def readSaved (arguments : List String) : Except NoCommand Command :=
  match Arguments.read? [helpOption] false arguments with
  | none => .error .misuse
  | some a =>
    match inPlaceOfCommand? a, a.positional with
    | some reason, _ => .error reason
    | none, [] => .error .misuse
    | none, name :: rest =>
      match savedForms.lookup name with
      | some form => form.read rest
      | none => .error (unknownName [helpOption] a.positional)

/-- Reads the command with a name from the arguments after it. -/
def read (name : String) (arguments : List String) : Except NoCommand Command :=
  if name = savedName then readSaved arguments
  else match forms.lookup name with
    | some form => form.read arguments
    | none => .error .misuse

end Command

/-! ## Command lines -/

/-- A command line that was understood up to its command. -/
structure CommandLine where
  /-- The directory that keeps the project, if it is given. -/
  directory : Option Path := none
  /-- Whether colours are refused. -/
  plain : Bool := false
  /-- The name of the command. -/
  name : String
  /-- The arguments after the name. -/
  arguments : List String
deriving Repr, DecidableEq

namespace CommandLine

/-- The options before the name of the command. -/
def options : List CommandOption :=
  [{ long := "--dir" }, { long := "--no-color", takesValue := false },
   { long := "--version", takesValue := false }, Command.helpOption]

/-- Reads a command line up to the name of its command. -/
def read (arguments : List String) : Except NoCommand CommandLine :=
  match Arguments.read? options false arguments with
  | none => .error .misuse
  | some a =>
    match Command.inPlaceOfCommand? a, a.positional with
    | some reason, _ => .error reason
    | none, [] => .error .misuse
    | none, name :: rest =>
      if !((a.value? "--dir").all Path.isPossible) then .error .misuse
      else if Command.isKnown name then
        .ok {
          directory := (a.value? "--dir").map Path.ofString
          plain := a.has "--no-color"
          name
          arguments := rest }
      else .error (Command.unknownName options a.positional)

end CommandLine

end IssueTracker
