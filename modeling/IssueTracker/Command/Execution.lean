import IssueTracker.Command.Basic
import IssueTracker.Command.Session
import IssueTracker.Report.Document
import IssueTracker.Report.View

/-!
# Carrying out commands

Commands other than `init` and `explain` need a project.  What the store or the settings refuse is
reported with exit code 1, a query that cannot be read with exit code 2; other errors are left to
the caller.
-/

namespace IssueTracker

open Terminal (escaped)

namespace Run

variable {α : Type} [Json.Nesting]

/-- An error of the store about a value: one that is refused, or one that cannot be read back. -/
def isAboutValue : StoreError → Bool
  | .titleRequired | .unsupported .. | .noRecord _ | .cannotUpdate _ | .unreadableTime _ => true
  | _ => false

/-- An error of the store about an issue that is not there. -/
def isAboutId : StoreError → Bool
  | .issueNotFound _ => true
  | _ => false

/-- An error of the store about a value or an issue that is not there. -/
def isAboutEither (error : StoreError) : Bool := isAboutValue error || isAboutId error

/-- The value of an operation on the store; the errors `isReported` says are reported. -/
def stored (isReported : StoreError → Bool) : Except StoreError α → Run α
  | .ok value => pure value
  | .error error =>
    if isReported error then fail error.message else fault (.failure (.store error))

/-- The value of an operation on the store whose errors are not reported. -/
def storedOrFault : Except StoreError α → Run α := unreported (.failure ∘ .store)

/-- The settings at a path; what is wrong with the file is reported. -/
def settings (path : Path) : Run Settings := do
  match Settings.load (← settingsFile path) with
  | .ok s => return s
  | .error (.fault wrong) => fail (wrong.message path.text)
  | .error error => fault (.failure (.saved (.settings error)))

/-- The paths of the project in a directory, which has to be there. -/
def projectPaths (root : Option Path) : Run ProjectPaths := do
  let w ← workspace
  match root with
  | some path => if w.isDirectory path then return .ofRoot path else fail missing
  | none => fail missing
where
  /-- What is reported without a project. -/
  missing : String :=
    "No " ++ projectDirectoryName ++ " directory found. Run 'issuemap init' first."

/-- Prints an error message that is no markup and ends the command with exit code 1. -/
def failAs (message : AnyText) : Run α := do
  fail (escaped (← printable message))

/-- Refuses a format that is neither that of a table nor JSON. -/
def checkFormat : Format → Run Unit
  | .other name => fail ("unsupported format: " ++ name)
  | _ => pure ()

/-- The query that a text writes; why there is none is reported behind some words. -/
def query (about : String) (raw : String) : Run Query :=
  match parseQuery raw with
  | .ok q => pure q
  | .error (.query error) => failWith 2 (about ++ escaped error.message)
  | .error error => fault (.failure (.rejected error))

/-- The limit for a query without one: the one that is asked for, or that of the settings. -/
def defaultLimit (paths : ProjectPaths) (asked : Option Nat) : Run Nat := do
  match asked with
  | some limit => return limit
  | none => return (← settings paths.settings).defaultLimit

/-! ## Projects -/

/-- Creates a project, or what is missing of it. -/
def init (asked : Option Path) (name : String) : Run Unit := do
  let w ← workspace
  let target := w.initTarget asked
  let (made, tree) := w.tree.makeDirectory w.here target
  modify fun s => { s with workspace.tree := tree }
  unreported .files made
  let paths := ProjectPaths.ofRoot target
  let db ← storedOrFault (← database paths.database).createTables
  put paths.database (.database db)
  if (← entryAt? paths.settings).isNone then
    let defaults : Settings := {}
    let s := if name = "" then defaults else { defaults with name := .string name }
    unreported (.failure ∘ .saved) (← putSettings paths.settings s.save)
  print ("[green]issuemap repository initialized[/] in " ++ target.text)

/-! ## Issues -/

/-- Creates an issue. -/
def create (paths : ProjectPaths) (issue : NewIssue) (mine : Bool) : Run Unit := do
  let w ← workspace
  let issue := if mine then { issue with assignee := some w.user } else issue
  let (id, db) ← stored isAboutValue ((← database paths.database).create issue w.clock)
  put paths.database (.database db)
  let i ← storedOrFault (db.get id)
  print ("[green]Created[/] " ++ i.number ++ ": " ++ escaped i.titleText ++ " \\[" ++
    i.type.getD "" ++ ", " ++ i.priority.getD "" ++ "]")

/-- Lists issues: those of a status, or else all, or else those that are not done or closed. -/
def list (paths : ProjectPaths) (status : Option String) (all : Bool) (format : Format) :
    Run Unit := do
  let found ← stored isAboutValue ((← database paths.database).list status)
  let issues := if status.getD "" = "" && !all
    then found.filter fun i => !isClosing (i.status.getD "") else found
  match format with
  | .json => printJson (.array (issues.map Issue.document))
  | .other _ => checkFormat format
  | .table =>
    if issues.isEmpty then print "No issues found." else writeShown (issueTable issues).lines

/-- Lists the labels in use. -/
def labels (paths : ProjectPaths) (format : Format) : Run Unit := do
  let names ← storedOrFault (← database paths.database).labels
  match format with
  | .json => printJson (.strings names)
  | .other _ => checkFormat format
  | .table =>
    if names.isEmpty then print "No labels in use."
    else print (", ".intercalate (names.map escaped))

/-- Shows an issue: in JSON, or else in a panel. -/
def inspect (paths : ProjectPaths) (id : Int) (format : Format) : Run Unit := do
  let i ← stored isAboutId ((← database paths.database).get id)
  if format = .json then printJson i.document else writeShown (issuePanel i).lines

/-- Changes the issue with an id, and answers it. -/
def change (paths : ProjectPaths) (id : Int) (isReported : StoreError → Bool)
    (operation : Database → Moment → Except StoreError Database) : Run Issue := do
  let w ← workspace
  let db ← stored isReported (operation (← database paths.database) w.clock)
  put paths.database (.database db)
  stored isReported (db.get id)

/-- Changes the issue with an id, and says what was done. -/
def changeAndSay (paths : ProjectPaths) (id : Int) (done : String) (isReported : StoreError → Bool)
    (operation : Database → Moment → Except StoreError Database) : Run Unit := do
  let i ← change paths id isReported operation
  print ("[green]" ++ done ++ "[/] " ++ i.number)

/-- Moves an issue to a status. -/
def setStatus (paths : ProjectPaths) (id : Int) (status : String) : Run Unit := do
  let i ← change paths id isAboutEither fun db now => db.setStatus id (some status) now
  print (i.number ++ " is now " ++ i.status.getD "")

/-! ## Deletion -/

/-- What a typed answer means, if it is one; none at all means no. -/
def readAnswer? (line : List Char) : Option Bool :=
  let word := String.ofList (Text.trim (Text.lowerChars line))
  if word = "y" ∨ word = "yes" then some true
  else if word = "n" ∨ word = "no" ∨ word = "" then some false
  else none

/-- What is printed while a question is asked until a line answers it, and the answer; there is
    none when the lines end. -/
def ask (question : List Char) : List (List Char) → List Char × Option Bool
  | [] => (question, none)
  | line :: lines =>
    match readAnswer? line with
    | some answer => (question, some answer)
    | none =>
      let (printed, answer) := ask question lines
      (question ++ "Error: invalid input\n".toList ++ printed, answer)

/-- The lines of an input; what follows the last line end is one if it is not empty. -/
def inputLines (input : List Char) : List (List Char) :=
  let lines := Text.pieces (· == '\n') input
  if lines.getLast? = some [] then lines.dropLast else lines

/-- Ends the command unless a question is answered with yes. -/
def confirm (question : String) : Run Unit := do
  let (printed, answer) := ask (question ++ " [y/N]: ").toList (inputLines (← get).input)
  write printed
  match answer with
  | some true => pure ()
  | some false => exit 1
  | none => throw .unanswered

/-- Deletes an issue. -/
def delete (paths : ProjectPaths) (id : Int) (confirmed : Bool) : Run Unit := do
  if !confirmed then confirm s!"Delete issue #{id}?"
  let db ← stored isAboutId ((← database paths.database).delete id)
  put paths.database (.database db)
  print s!"[green]Deleted[/] #{id}"

/-! ## Searches -/

/-- Shows the result of a search. -/
def showResult (raw : String) (r : SearchResult) (format : Format) : Run Unit := do
  if format = .json then printJson (r.document raw)
  else if r.issues.isEmpty then
    print "No issues found matching your query."
    print "Try:"
    print "  - Broadening your search terms"
    print "  - Removing some filters"
    print "  - Using 'OR' instead of 'AND'"
    print "  - Checking spelling of field values"
  else
    let part := if r.count < r.total then s!"showing {r.count}" else "showing all"
    print (s!"Found {r.total} issue(s), {part} " ++ styled mutedStyle "(in 0.0ms)")
    writeShown (issueTable r.issues).lines

/-- Runs a query. -/
def execute (paths : ProjectPaths) (q : Query) (asked : Option Nat) : Run SearchResult := do
  let limit ← defaultLimit paths asked
  let w ← workspace
  unreported .failure (Search.execute (← database paths.database) q w.clock limit)

/-- Whether it is reported that a search cannot be saved: always but for a limit without end or
    containers too far inside one another, and that the settings file is a directory only after the
    search was run. -/
def isSavingReported (afterSearch : Bool) : SavedError → Bool
  | .settings .infiniteLimit | .settings (.tooDeep _) => false
  | .settings .isDirectory => afterSearch
  | _ => true

/-- Saves a search, or answers why not. -/
def trySave (paths : ProjectPaths) (name raw : String) (afterSearch : Bool) :
    Run (Option SavedError) := do
  match ← changeSettings paths.settings (SavedSearch.save · (some name) raw) with
  | .ok () => return none
  | .error error =>
    if isSavingReported afterSearch error then return some error
    else fault (.failure (.saved error))

/-- Runs a query that is typed, and saves it if a name for it is given. -/
def search (paths : ProjectPaths) (raw : String) (q : Query) (options : SearchOptions)
    (saveAs : Option String) : Run Unit := do
  let r ← execute paths q options.limit
  if q.isEmpty && options.format == .table then
    print (styled mutedStyle "Empty query: every issue matches.")
  showResult raw r options.format
  let name := saveAs.getD ""
  if name ≠ "" then
    match ← trySave paths name raw true with
    | none => print ("Search saved as '" ++ escaped name ++ "'")
    | some error =>
      let message ← printable (error.message paths.settings.text)
      print (styled "yellow" ("Failed to save search: " ++ escaped message))

/-- Shows what a query means. -/
def explain (q : Query) (format : Format) : Run Unit :=
  if format = .json then printJson q.document else writeShown q.explanation.lines

/-- Saves a search that can be read. -/
def saveSearch (paths : ProjectPaths) (name raw : String) : Run Unit := do
  let _ ← query "Invalid query: " raw
  match ← trySave paths name raw false with
  | some error => failAs (error.message paths.settings.text)
  | none =>
    print (styled "green" ("Search query saved as '" ++ escaped name ++ "'"))
    print ("Run with: issuemap saved run \"" ++ escaped name ++ "\"")

/-- The value of an operation on the saved searches. -/
def saved (paths : ProjectPaths) : Except SavedError α → Run α
  | .ok value => pure value
  | .error error =>
    match error with
    | .notFound _ | .settings (.fault _) => failAs (error.message paths.settings.text)
    | _ => fault (.failure (.saved error))

/-- The query that a saved text writes. -/
def savedQuery (name : String) : AnyText → Run (String × Query)
  | .plain raw => do
    let q ← query ("Saved search '" ++ escaped name ++ "' is invalid: ") raw
    return (raw, q)
  | raw => fault (.failure (.brokenQuery raw))

/-- Runs a saved search. -/
def runSearch (paths : ProjectPaths) (name : String) (options : SearchOptions) : Run Unit := do
  let limit ← defaultLimit paths options.limit
  let (raw, q) ←
    savedQuery name (← saved paths (SavedSearch.load (← settingsFile paths.settings) name))
  let r ← execute paths q (some limit)
  if options.format = .table then
    print ("Running saved search '" ++ escaped name ++ "': " ++ escaped raw ++ "\n")
  showResult raw r options.format

/-- The saved searches as strings, if they can be printed. -/
def printableSearches (searches : List (AnyText × AnyText)) : Run (List (String × String)) :=
  unreported .unprintable <| searches.mapM fun (name, query) => do
    return (← name.asString, ← query.asString)

/-- Lists the saved searches. -/
def listSearches (paths : ProjectPaths) (format : Format) : Run Unit := do
  let searches ← saved paths (SavedSearch.list (← settingsFile paths.settings))
  if format = .json then printJson (.texts searches)
  else if searches.isEmpty then
    print "No saved searches found."
    print (styled "yellow" "Save one with: issuemap saved save NAME \"QUERY\"")
  else writeShown (savedTable (← printableSearches searches)).lines

/-- Deletes a saved search. -/
def deleteSearch (paths : ProjectPaths) (name : String) : Run Unit := do
  saved paths (← changeSettings paths.settings (SavedSearch.delete · name))
  print (styled "green" ("Deleted saved search '" ++ escaped name ++ "'"))

/-! ## Commands -/

/-- Carries out a command on the project in `root`; `asked` is where the command line wants it. -/
def command (asked root : Option Path) : Command → Run Unit
  | .init name => init asked name
  | .create issue mine => do create (← projectPaths root) issue mine
  | .list status all format => do list (← projectPaths root) status all format
  | .labels format => do labels (← projectPaths root) format
  | .inspect id format => do inspect (← projectPaths root) id format
  | .edit id changes => do
    changeAndSay (← projectPaths root) id "Updated" isAboutEither fun db now => db.update id changes now
  | .setStatus id status => do setStatus (← projectPaths root) id status
  | .close id => do
    changeAndSay (← projectPaths root) id "Closed" isAboutId fun db now => db.close id now
  | .reopen id => do
    changeAndSay (← projectPaths root) id "Reopened" isAboutId fun db now => db.reopen id now
  | .delete id confirmed => do delete (← projectPaths root) id confirmed
  | .search raw options saveAs => do
    checkFormat options.format
    let q ← query "Invalid query: " raw
    search (← projectPaths root) raw q options saveAs
  | .explain raw format => do
    checkFormat format
    explain (← query "Invalid query: " raw) format
  | .saveSearch name raw => do saveSearch (← projectPaths root) name raw
  | .runSearch name options => do
    checkFormat options.format
    runSearch (← projectPaths root) name options
  | .listSearches format => do
    checkFormat format
    listSearches (← projectPaths root) format
  | .deleteSearch name => do deleteSearch (← projectPaths root) name

/-- The text that tells the version. -/
def versionText : String := applicationName ++ " 0.1.0"

/-- Ends a command line that asks for no command. -/
def noCommand : NoCommand → Run Unit
  | .version => do
    write (versionText.toList ++ ['\n'])
    exit 0
  | .help => exit 0
  | .misuse => exit 2

/-- Finds the project of a command line, and reports what is wrong with its settings. -/
def project (asked : Option Path) (plain : Bool) : Run (Option Path) := do
  let w ← workspace
  let root := asked.or (w.find none)
  match root with
  | some path =>
    if w.isDirectory path && !plain then
      let _ ← settings (ProjectPaths.ofRoot path).settings
  | none => pure ()
  return root

/-- Carries out a command line.  Its command is read after its project was found. -/
def commandLine (arguments : List String) : Run Unit := do
  match CommandLine.read arguments with
  | .error reason => noCommand reason
  | .ok line =>
    let root ← project line.directory line.plain
    match Command.read line.name line.arguments with
    | .error reason => noCommand reason
    | .ok wanted => command line.directory root wanted

end Run

/-- How a command line ends in a workspace, and the session after it. -/
def Workspace.run [Json.Nesting] (w : Workspace) (input : List Char) (arguments : List String) :
    Ending × Session :=
  match (Run.commandLine arguments).run { workspace := w, input } with
  | (.ok (), session) => (.exit 0, session)
  | (.error ending, session) => (ending, session)

end IssueTracker
