import IssueTracker.Query.Basic
import IssueTracker.Calendar.Iso

/-!
# Errors in queries

Why a query is rejected, with the piece of it that is to blame and the text that says so.
-/

namespace IssueTracker

/-- What is wrong with a bound on a time. -/
inductive BoundFault
  /-- It is neither a date nor an age. -/
  | shape
  | calendar (error : CalendarError)
  | unknownComparison
  /-- It gives both a day and an age, or none of them. -/
  | notOneTarget
deriving Repr, DecidableEq

/-- The explanation of a fault, where there is one. -/
def BoundFault.reason : BoundFault → String
  | shape => ""
  | calendar error => error.message
  | unknownComparison => "unknown operator"
  | notOneTarget => "expected either an absolute date or a relative duration"

/-- Why a query is rejected. -/
inductive QueryError
  | unknownField (name : String)
  | invalidDate (token : String) (fault : BoundFault)
  | invalidLimit (token : String)
  | invalidValue (field value : String) (allowed : List String)
  /-- A `NOT` before anything but a condition; the token is empty at the end of the query. -/
  | invalidNegation (token : String)
  | invalidSort (direction : String)
  /-- A field that is used both plain and negated. -/
  | conflictingNegation (field token : String)
deriving Repr, DecidableEq

namespace QueryError

/-- The piece of the query that is to blame. -/
def token : QueryError → String
  | unknownField name => name
  | invalidDate token _ => token
  | invalidLimit token => token
  | invalidValue field value _ => field ++ ":" ++ value
  | invalidNegation token => token
  | invalidSort direction => direction
  | conflictingNegation _ token => token

/-- What is reported of a rejected query. -/
def message : QueryError → String
  | unknownField name => "unknown field: " ++ name
  | invalidDate token fault =>
    "invalid date expression: " ++ token ++
      (if fault.reason = "" then "" else " (" ++ fault.reason ++ ")")
  | invalidLimit token => "invalid limit: " ++ token ++ " (expected a non-negative integer)"
  | invalidValue field value allowed =>
    "invalid value for " ++ field ++ ": " ++ Text.literal value ++
      (if allowed = [] then "" else " (expected one of: " ++ ", ".intercalate allowed ++ ")")
  | invalidNegation token =>
    "NOT must precede a field filter, got: " ++ (if token = "" then "end of query" else token)
  | invalidSort direction =>
    "invalid sort direction: " ++ direction ++ " (expected asc or desc)"
  | conflictingNegation field token =>
    field ++ " is used both with and without NOT: " ++ token

end QueryError

/-- Why no query can be read from a text. -/
inductive Rejection
  | query (error : QueryError)
  /-- A limit of more digits than a numeral may have. -/
  | longLimit (numeral : Text.LongNumeral)
deriving Repr, DecidableEq

/-- What is reported of a text from which no query can be read. -/
def Rejection.message : Rejection → String
  | query error => error.message
  | longLimit numeral => numeral.message

end IssueTracker
