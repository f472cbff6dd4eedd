import IssueTracker.Store.Change
import IssueTracker.Text.Case

/-!
# The issue database

A database file can be unreachable, hold something else, be without tables, or hold a store.  The
operations here check what they are given: titles are not empty, types, statuses and priorities come
from their vocabularies.
-/

namespace IssueTracker

/-- A database file. -/
inductive Database
  /-- In a directory that does not exist, or a directory itself. -/
  | unreachable
  /-- A file that holds something else. -/
  | foreign
  /-- Without tables. -/
  | blank
  | ready (store : Store)
deriving Repr, DecidableEq

/-- A word of a vocabulary: in lower case, without blanks around it. -/
def Vocabulary.check (vocabulary : Vocabulary) (value : Option String) :
    Except StoreError String :=
  let word := Text.lower (Text.strip (value.getD ""))
  if vocabulary.words.contains word then .ok word else .error (.unsupported vocabulary value)

/-- A title without blanks around it, which must not be empty. -/
def checkTitle (title : String) : Except StoreError String :=
  if Text.strip title = "" then .error .titleRequired else .ok (Text.strip title)

/-- What a new issue is created from. -/
structure NewIssue where
  title : Option String
  description : Option String := some ""
  type : Option String := some defaultType
  priority : Option String := some defaultPriority
  assignee : Option String := some ""
  branch : Option String := some ""
  labels : LabelList := none
deriving DecidableEq

/-- The issue to store, created at a moment. -/
def NewIssue.check (n : NewIssue) (now : Moment) : Except StoreError Issue := do
  let title ← checkTitle (n.title.getD "")
  let type ← Vocabulary.type.check n.type
  let priority ← Vocabulary.priority.check n.priority
  match normalizeLabels n.labels with
  | none => .error .missingLabel
  | some names =>
    return {
      title := some title
      description := some (n.description.getD "")
      type := some type
      priority := some priority
      assignee := some (Text.strip (n.assignee.getD ""))
      branch := some (Text.strip (n.branch.getD ""))
      labels := .ofNames names
      createdAt := some now
      updatedAt := some now }

/-- The new values for an issue; what is missing stays as it is. -/
structure Changes where
  title : Option String := none
  description : Option String := none
  type : Option String := none
  priority : Option String := none
  assignee : Option String := none
  branch : Option String := none
  labels : LabelList := none
deriving DecidableEq

/-- The assignments that make the changes. -/
def Changes.check (c : Changes) : Except StoreError (List Store.Assignment) := do
  let title ← c.title.mapM checkTitle
  let type ← c.type.mapM fun type => Vocabulary.type.check (some type)
  let priority ← c.priority.mapM fun priority => Vocabulary.priority.check (some priority)
  let given : List (Store.Column × Option String) :=
    [(.title, title), (.description, c.description), (.type, type), (.priority, priority),
     (.assignee, c.assignee.map Text.strip), (.branch, c.branch.map Text.strip)]
  return given.filter (·.2.isSome)

namespace Database

/-- The store of a database; the table that is asked for first is the one that is missed. -/
def store (db : Database) (table : String) : Except StoreError Store :=
  match db with
  | unreachable => .error .unreachable
  | foreign => .error .notADatabase
  | blank => .error (.noTable table)
  | ready store => .ok store

/-- The store of a database, for an operation on issues. -/
def issueStore (db : Database) : Except StoreError Store := db.store "issues"

/-- Creates the tables, unless they are there. -/
def createTables (db : Database) : Except StoreError Database :=
  match db with
  | unreachable => .error .unreachable
  | foreign => .error .notADatabase
  | blank => .ok (ready {})
  | ready store => .ok (ready store)

/-! ## Reading -/

/-- The issues, or those of a status when one is given. -/
def list (db : Database) (status : Option String) : Except StoreError (List Issue) := do
  let issues ← (← db.issueStore).issues
  match status with
  | none | some "" => return issues
  | some status =>
    let word ← Vocabulary.status.check (some status)
    return issues.filter (·.status == some word)

/-- The labels in use. -/
def labels (db : Database) : Except StoreError (List String) := do
  return (← db.store "labels").usedLabels

/-- The issue with an id, if there is one. -/
def find? (db : Database) (id : Int) : Except StoreError (Option Issue) := do
  (← db.issueStore).find? id

/-- The issue with an id. -/
def get (db : Database) (id : Int) : Except StoreError Issue := do
  match ← db.find? id with
  | some i => return i
  | none => .error (.issueNotFound id)

/-! ## Unchecked changes -/

/-- Stores an issue as it is and answers its id. -/
def insert (db : Database) (i : Issue) (now : Moment) : Except StoreError (Int × Database) := do
  let (id, store) ← (← db.issueStore).insert i now
  return (id, ready store)

/-- Assigns values to columns by name, and labels if there is a list of them. -/
def assign (db : Database) (id : Int) (fields : List (String × Option String)) (labels : LabelList)
    (now : Moment) : Except StoreError Database := do
  let assignments ← Store.assignments fields
  return ready (← (← db.issueStore).update id assignments labels now)

/-- Moves an issue to any status and answers the one before. -/
def assignStatus (db : Database) (id : Int) (status : Option String) (now : Moment) :
    Except StoreError (String × Database) := do
  let (previous, store) ← (← db.issueStore).setStatus id status now
  return (previous, ready store)

/-- Deletes an issue; answers whether there was one. -/
def remove (db : Database) (id : Int) : Except StoreError (Bool × Database) := do
  let (found, store) ← (← db.issueStore).delete id
  return (found, ready store)

/-! ## Checked changes -/

/-- Creates an issue and answers its id. -/
def create (db : Database) (n : NewIssue) (now : Moment) : Except StoreError (Int × Database) := do
  db.insert (← n.check now) now

/-- Changes an issue. -/
def update (db : Database) (id : Int) (c : Changes) (now : Moment) :
    Except StoreError Database := do
  let _ ← db.get id
  let assignments ← c.check
  return ready (← (← db.issueStore).update id assignments c.labels now)

/-- Moves an issue to a status. -/
def setStatus (db : Database) (id : Int) (status : Option String) (now : Moment) :
    Except StoreError Database := do
  let word ← Vocabulary.status.check status
  let _ ← db.get id
  let (_, db) ← db.assignStatus id (some word) now
  return db

/-- Closes an issue. -/
def close (db : Database) (id : Int) (now : Moment) : Except StoreError Database :=
  db.setStatus id (some "closed") now

/-- Opens an issue again. -/
def reopen (db : Database) (id : Int) (now : Moment) : Except StoreError Database :=
  db.setStatus id (some "open") now

/-- Deletes an issue. -/
def delete (db : Database) (id : Int) : Except StoreError Database := do
  let (found, db) ← db.remove id
  if found then return db else .error (.issueNotFound id)

end Database

end IssueTracker
