import IssueTracker.Files.Path
import IssueTracker.Search

/-!
# Projects

A project is a set of database files, a settings file and a clock.  Requests are handled one after
another.  A change is kept as soon as it succeeds, even where the answer to the request is then read
from what was kept.  Settings that cannot be written as a whole are kept as far as they are written.
-/

namespace IssueTracker

/-- A request to a project. -/
inductive Request
  | createTables
  | setClock (now : Moment)
  | create (issue : NewIssue)
  | update (id : Int) (changes : Changes)
  | setStatus (id : Int) (status : Option String)
  | close (id : Int)
  | reopen (id : Int)
  | delete (id : Int)
  | get (id : Int)
  | list (status : Option String)
  | labels
  /-- Stores an issue as it is. -/
  | insert (issue : Issue)
  | find (id : Int)
  /-- Assigns values to columns by name. -/
  | assign (id : Int) (fields : List (String × Option String)) (labels : LabelList)
  /-- Moves an issue to any status. -/
  | assignStatus (id : Int) (status : Option String)
  | remove (id : Int)
  | search (raw : String) (now : Option Moment) (defaultLimit : Int)
  | execute (query : Query) (now : Option Moment) (defaultLimit : Int)
  | saveSearch (name : Option AnyText) (raw : AnyText)
  | loadSearch (name : AnyText)
  | savedSearches
  | deleteSearch (name : AnyText)
  | runSaved (name : AnyText) (now : Option Moment) (defaultLimit : Int)
  | settings
  | writeSettings (content : Bytes)
  | readSettings

/-- What a request answers. -/
inductive Reply
  | done
  | id (id : Int)
  | issue (issue : Option Issue)
  | issues (issues : List Issue)
  | names (names : List String)
  | text (text : Option AnyText)
  | found (found : Bool)
  | searches (searches : List (AnyText × AnyText))
  | result (result : SearchResult)
  | savedResult (raw : AnyText) (result : SearchResult)
  | settings (settings : Settings)

/-- A project. -/
structure Project where
  databases : List (String × Database) := []
  settings : SettingsFile := .missing
  clock : Moment

namespace Project

/-- The name of the database file at a path, if it is one in the project's own directory: the
    project has no others. -/
def fileName? (path : String) : Option String :=
  let path := Path.ofString path
  match path.isAbsolute, path.names.foldl Path.step [] with
  | false, [name] => some name
  | _, _ => none

/-- The database at a path: without tables until they are created. -/
def database (p : Project) (path : String) : Database :=
  match fileName? path with
  | none => .unreachable
  | some name => ((p.databases.find? (·.1 == name)).map Prod.snd).getD .blank

/-- The project with a new content of the database at a path. -/
def setDatabase (p : Project) (path : String) (db : Database) : Project :=
  match fileName? path with
  | none => p
  | some name => { p with databases := Json.setMember name db p.databases }

/-- A change of the database in a file, which is kept before the answer is read from it. -/
def change {α : Type} (p : Project) (file : String) (changed : Except StoreError (α × Database))
    (reply : α → Database → Except StoreError Reply) : Except Failure Reply × Project :=
  match changed with
  | .ok (made, db) => ((reply made db).mapError .store, p.setDatabase file db)
  | .error error => (.error (.store error), p)

/-- A change of the issue with an id, which answers the issue afterwards. -/
def changeIssue (p : Project) (file : String) (id : Int) (changed : Except StoreError Database) :
    Except Failure Reply × Project :=
  p.change file (changed.map ((), ·)) fun _ db => return .issue (← db.get id)

/-- A change of the settings file. -/
def changeSettings (p : Project) (changed : Except SavedError Written) :
    Except Failure Reply × Project :=
  let (outcome, settings) := p.settings.change changed
  ((outcome.map fun _ => .done).mapError .saved, { p with settings })

/-- The text of the settings file, if there is one. -/
def settingsText (p : Project) : Except Failure (Option String) :=
  match p.settings with
  | .missing => .ok none
  | .directory => .error (.saved (.settings .isDirectory))
  | .content content =>
    match Text.decodeUtf8 content with
    | .ok text => .ok (some (String.ofList text))
    | .error fault => .error (.saved (.settings (.undecodable fault)))

variable [Json.Nesting]

/-- Handles a request on the database in a file. -/
def handle (p : Project) (file : String) (request : Request) : Except Failure Reply × Project :=
  let db := p.database file
  match request with
  | .createTables => p.change file (db.createTables.map ((), ·)) fun _ _ => return .done
  | .setClock now => (.ok .done, { p with clock := now.wholeSecond })
  | .create issue => p.change file (db.create issue p.clock) fun id db => return .issue (← db.get id)
  | .update id changes => p.changeIssue file id (db.update id changes p.clock)
  | .setStatus id status => p.changeIssue file id (db.setStatus id status p.clock)
  | .close id => p.changeIssue file id (db.close id p.clock)
  | .reopen id => p.changeIssue file id (db.reopen id p.clock)
  | .delete id => p.change file (db.remove id) fun found _ =>
    if found then .ok .done else .error (.issueNotFound id)
  | .get id => (do return .issue (← (db.get id).mapError .store), p)
  | .list status => (do return .issues (← (db.list status).mapError .store), p)
  | .labels => (do return .names (← db.labels.mapError .store), p)
  | .insert issue => p.change file (db.insert issue p.clock) fun id _ => return .id id
  | .find id => (do return .issue (← (db.find? id).mapError .store), p)
  | .assign id fields labels =>
    p.change file ((db.assign id fields labels p.clock).map ((), ·)) fun _ _ => return .done
  | .assignStatus id status =>
    p.change file (db.assignStatus id status p.clock) fun previous _ =>
      return .text (some (.plain previous))
  | .remove id => p.change file (db.remove id) fun found _ => return .found found
  | .search raw now defaultLimit =>
    (do return .result (← Search.run db raw (now.getD p.clock) defaultLimit), p)
  | .execute query now defaultLimit =>
    (do return .result (← Search.execute db query (now.getD p.clock) defaultLimit), p)
  | .saveSearch name raw => p.changeSettings (SavedSearch.save p.settings name raw)
  | .loadSearch name =>
    (do return .text (some (← (SavedSearch.load p.settings name).mapError .saved)), p)
  | .savedSearches => (do return .searches (← (SavedSearch.list p.settings).mapError .saved), p)
  | .deleteSearch name => p.changeSettings (SavedSearch.delete p.settings name)
  | .runSaved name now defaultLimit =>
    (do
      let (raw, result) ← Search.runSaved db p.settings name (now.getD p.clock) defaultLimit
      return .savedResult raw result, p)
  | .settings => (do return .settings (← (Settings.load p.settings).mapError (.saved ∘ .settings)), p)
  | .writeSettings content => (.ok .done, { p with settings := .content content })
  | .readSettings => (do return .text ((← p.settingsText).map .plain), p)

/-- Handles requests in turn, each on the database in its file, and answers each. -/
def run (p : Project) : List (String × Request) → List (Except Failure Reply) × Project
  | [] => ([], p)
  | (file, request) :: requests =>
    let (reply, p) := p.handle file request
    let (replies, p) := p.run requests
    (reply :: replies, p)

end Project

end IssueTracker
