import IssueTracker.Query.Order

/-!
# Running a query

A query is tried on every issue; those that satisfy it are ordered and cut off at the limit.
-/

namespace IssueTracker

/-- The issues that a search answers, and how many satisfy it. -/
structure SearchResult where
  issues : List Issue
  total : Nat
deriving DecidableEq

/-- The number of issues that a search answers. -/
def SearchResult.count (r : SearchResult) : Nat := r.issues.length

/-- The first `limit` members of a list; zero means all, a negative number all but so many at the
    end. -/
def cutOff {α : Type} (limit : Option Int) (members : List α) : List α :=
  match limit with
  | none => members
  | some limit =>
    if limit = 0 then members
    else if 0 < limit then members.take limit.toNat
    else members.take (members.length - limit.natAbs)

namespace Query

/-- The issues that satisfy a query, in their order. -/
def select (q : Query) (now : Moment) : List Issue → Except MatchError (List Issue)
  | [] => .ok []
  | i :: issues => do
    let accepted ← q.accepts i now
    let others ← q.select now issues
    return if accepted then i :: others else others

/-- Issues in the order of a query, by id when it gives none. -/
def arrange (q : Query) (issues : List Issue) : Except MatchError (List Issue) :=
  match q.sort with
  | none => .ok (sortById issues)
  | some order => sortIssues issues order

/-- Runs a query over issues. -/
def execute (q : Query) (issues : List Issue) (now : Moment) : Except MatchError SearchResult := do
  let selected ← q.select now issues
  let arranged ← q.arrange selected
  return { issues := cutOff q.limit arranged, total := selected.length }

end Query

end IssueTracker
