import IssueTracker.Issue

/-!
# Search queries

A query combines conditions on the fields of an issue, a text to find, an order and a limit.  Each
condition stands plain or negated, and all of them are joined by one connective.
-/

namespace IssueTracker

/-- A field of an issue that a condition compares with texts. -/
inductive FilterField
  | type
  | status
  | priority
  | assignee
  | branch
  | labels
  /-- A name outside of the query language, which a query built by hand may hold. -/
  | other (name : String)
deriving Repr, DecidableEq

/-- A time of an issue. -/
inductive DateField
  | created
  | updated
  | closed
  /-- A name outside of the query language, which a query built by hand may hold. -/
  | other (name : String)
deriving Repr, DecidableEq

/-- What issues are ordered by. -/
inductive SortKey
  | id
  | title
  | type
  | status
  | priority
  | assignee
  | branch
  | created
  | updated
  | closed
  /-- A name outside of the query language, which a query built by hand may hold. -/
  | other (name : String)
deriving Repr, DecidableEq

namespace FilterField

/-- The filter fields of the query language. -/
def all : List FilterField := [type, status, priority, assignee, branch, labels]

/-- The name of a field in a query. -/
def name : FilterField → String
  | type => "type"
  | status => "status"
  | priority => "priority"
  | assignee => "assignee"
  | branch => "branch"
  | labels => "labels"
  | other name => name

/-- The field with a name. -/
def ofName (name : String) : FilterField := (all.find? (·.name == name)).getD (other name)

/-- The values that a field is restricted to. -/
def vocabulary? : FilterField → Option (List String)
  | type => some issueTypes
  | status => some statuses
  | priority => some priorities
  | _ => none

end FilterField

namespace DateField

/-- The date fields of the query language. -/
def all : List DateField := [created, updated, closed]

/-- The name of a field in a query. -/
def name : DateField → String
  | created => "created"
  | updated => "updated"
  | closed => "closed"
  | other name => name

/-- The field with a name. -/
def ofName (name : String) : DateField := (all.find? (·.name == name)).getD (other name)

end DateField

namespace SortKey

/-- The sort keys of the query language. -/
def all : List SortKey :=
  [id, title, type, status, priority, assignee, branch, created, updated, closed]

/-- The name of a key in a query. -/
def name : SortKey → String
  | id => "id"
  | title => "title"
  | type => "type"
  | status => "status"
  | priority => "priority"
  | assignee => "assignee"
  | branch => "branch"
  | created => "created"
  | updated => "updated"
  | closed => "closed"
  | other name => name

/-- The key of the query language with a name. -/
def ofName? (name : String) : Option SortKey := all.find? (·.name == name)

end SortKey

/-- How a time is compared with a bound. -/
inductive Comparison
  | ge
  | le
  | gt
  | lt
  | eq
deriving Repr, DecidableEq

namespace Comparison

/-- The comparisons, those of two characters first. -/
def all : List Comparison := [ge, le, gt, lt, eq]

/-- How a comparison is written. -/
def symbol : Comparison → String
  | ge => ">="
  | le => "<="
  | gt => ">"
  | lt => "<"
  | eq => "="

/-- The comparison of points in time that compares ages so: what is younger is later. -/
def ofAges : Comparison → Comparison
  | ge => le
  | le => ge
  | gt => lt
  | lt => gt
  | eq => eq

/-- Whether two values in this order compare so. -/
def holds : Comparison → Ordering → Bool
  | ge, o => o != .lt
  | le, o => o != .gt
  | gt, o => o == .gt
  | lt, o => o == .lt
  | eq, o => o == .eq

end Comparison

/-- What a time is compared with: a day, or an age such as `7d` as it was written. -/
inductive Target
  | day (date : Date)
  | age (token : String)
deriving DecidableEq

/-- A bound on a time. -/
structure Bound where
  comparison : Comparison
  target : Target
deriving DecidableEq

/-- A bound in words, as it is shown when a query is explained. -/
def Bound.describe (b : Bound) : String :=
  b.comparison.symbol ++ " " ++ match b.target with
    | .day date => date.iso
    | .age token => token ++ " (relative)"

/-- A condition on one field: the values it is compared with, plain or negated. -/
structure Condition (Field Value : Type) where
  field : Field
  values : List Value
  negated : Bool := false
deriving DecidableEq

/-- How conditions combine. -/
inductive Connective
  | and
  | or
deriving Repr, DecidableEq

/-- The name of a connective. -/
def Connective.name : Connective → String
  | .and => "AND"
  | .or => "OR"

/-- The order of search results. -/
structure SortOrder where
  key : SortKey
  descending : Bool := false
deriving Repr, DecidableEq

/-- The name of a direction. -/
def SortOrder.direction (o : SortOrder) : String := if o.descending then "desc" else "asc"

/-- A search query.  Fields are in the order of their first condition, each at most once. -/
structure Query where
  /-- The text to find; the empty text is found everywhere. -/
  text : String := ""
  filters : List (Condition FilterField String) := []
  bounds : List (Condition DateField Bound) := []
  connective : Connective := .and
  sort : Option SortOrder := none
  /-- The most results to answer: zero for all, a negative number for all but so many. -/
  limit : Option Int := none
deriving DecidableEq

/-- A query without conditions, which every issue satisfies. -/
def Query.isEmpty (q : Query) : Bool := q.text == "" && q.filters.isEmpty && q.bounds.isEmpty

end IssueTracker
