import IssueTracker.Query.Reader
import IssueTracker.Query.Execution
import IssueTracker.Store.Database
import IssueTracker.Settings.SavedSearch

/-!
# Searching the store

A query is read before the store is looked at.  A query without a limit takes the default one, if
that is positive; an explicit limit, also that of zero, stands.
-/

namespace IssueTracker

/-- Why a request fails. -/
inductive Failure
  | rejected (error : Rejection)
  | unmatchable (error : MatchError)
  | store (error : StoreError)
  | saved (error : SavedError)
  /-- A saved query has halves of surrogate pairs, which the query reader is not made for. -/
  | brokenQuery (raw : AnyText)
deriving Repr, DecidableEq

/-- What is reported of a failure in the project whose settings are at a path. -/
def Failure.message (path : String) : Failure → AnyText
  | rejected error => error.message
  | unmatchable error => error.message
  | store error => error.message
  | saved error => error.message path
  | brokenQuery raw => ("not a query: " : AnyText) ++ raw

namespace Search

/-- The query with the default limit where it has none. -/
def withDefaultLimit (q : Query) (defaultLimit : Int) : Query :=
  if q.limit.isNone ∧ 0 < defaultLimit then { q with limit := some defaultLimit } else q

/-- Runs a query over all issues of a database. -/
def execute (db : Database) (q : Query) (now : Moment) (defaultLimit : Int) :
    Except Failure SearchResult := do
  let store ← db.issueStore.mapError .store
  let issues ← store.issues.mapError .store
  ((withDefaultLimit q defaultLimit).execute issues now).mapError .unmatchable

/-- Reads a query and runs it. -/
def run (db : Database) (raw : String) (now : Moment) (defaultLimit : Int) :
    Except Failure SearchResult := do
  let q ← (parseQuery raw).mapError .rejected
  execute db q now defaultLimit

/-- Runs the query that is saved under a name, and answers it with its result. -/
def runSaved [Json.Nesting] (db : Database) (settings : SettingsFile) (name : AnyText) (now : Moment)
    (defaultLimit : Int) : Except Failure (AnyText × SearchResult) := do
  match ← (SavedSearch.load settings name).mapError .saved with
  | .plain raw =>
    let result ← run db raw now defaultLimit
    return (raw, result)
  | raw => .error (.brokenQuery raw)

end Search

end IssueTracker
