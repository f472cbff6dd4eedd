import IssueTracker.Calendar.Iso
import IssueTracker.Issue

/-!
# Errors of the store
-/

namespace IssueTracker

/-- A field whose values come from a fixed vocabulary. -/
inductive Vocabulary
  | type
  | status
  | priority
deriving Repr, DecidableEq

namespace Vocabulary

/-- The name of the field. -/
def name : Vocabulary → String
  | type => "type"
  | status => "status"
  | priority => "priority"

/-- The words of a vocabulary. -/
def words : Vocabulary → List String
  | type => issueTypes
  | status => statuses
  | priority => priorities

end Vocabulary

/-- Why the store does not do what it was asked to. -/
inductive StoreError
  /-- The database file cannot be opened. -/
  | unreachable
  /-- The file holds something else. -/
  | notADatabase
  /-- The database has no tables yet. -/
  | noTable (name : String)
  /-- An id beyond the numbers that the database can hold. -/
  | hugeId
  /-- The greatest number that the database can hold was given as an id. -/
  | full
  /-- A missing value for a column that needs one. -/
  | missingValue (column : String)
  /-- Labels for an issue that is not there. -/
  | noIssueForLabel
  /-- A missing entry in a list of labels. -/
  | missingLabel
  /-- A stored time that cannot be read. -/
  | unreadableTime (error : CalendarError)
  | titleRequired
  | unsupported (vocabulary : Vocabulary) (value : Option String)
  /-- Columns that cannot be changed, in order. -/
  | cannotUpdate (columns : List String)
  /-- An issue that is not there, for a direct change of its record. -/
  | noRecord (id : Int)
  /-- An issue that is not there. -/
  | issueNotFound (id : Int)
deriving Repr, DecidableEq

/-- What is reported of a failed operation. -/
def StoreError.message : StoreError → String
  | unreachable => "unable to open database file"
  | notADatabase => "file is not a database"
  | noTable name => "no such table: " ++ name
  | hugeId => "Python int too large to convert to SQLite INTEGER"
  | full => "database or disk is full"
  | missingValue column => "NOT NULL constraint failed: issues." ++ column
  | noIssueForLabel => "FOREIGN KEY constraint failed"
  | missingLabel => "'NoneType' object has no attribute 'strip'"
  | unreadableTime error => error.message
  | titleRequired => "Title is required"
  | unsupported vocabulary value =>
    "Unsupported " ++ vocabulary.name ++ ": " ++ value.getD "None" ++ " (expected one of: " ++
      ", ".intercalate vocabulary.words ++ ")"
  | cannotUpdate columns => "Cannot update fields: " ++ ", ".intercalate columns
  | noRecord id => s!"Issue {id} not found"
  | issueNotFound id => s!"Issue {id} not found"

end IssueTracker
