import IssueTracker.Json.Basic
import IssueTracker.Query.Execution

/-!
# Reports as JSON

Issues, queries and search results as JSON values.
-/

namespace IssueTracker

/-- A moment to the second, or null when it is missing. -/
def Moment.document? (m : Option Moment) : Json := .text? (m.map Moment.isoSeconds)

/-- An issue as a JSON value. -/
def Issue.document (i : Issue) : Json :=
  .object [
    ("id", .integer? i.id),
    ("title", .text? i.title),
    ("description", .text? i.description),
    ("type", .text? i.type),
    ("status", .text? i.status),
    ("priority", .text? i.priority),
    ("assignee", .text? i.assignee),
    ("branch", .text? i.branch),
    ("labels", .array ((i.labels.getD []).map .text?)),
    ("created_at", Moment.document? i.createdAt),
    ("updated_at", Moment.document? i.updatedAt),
    ("closed_at", Moment.document? i.closedAt)]

/-- A bound as a JSON value. -/
def Bound.document (b : Bound) : Json :=
  let (day, age) : Option String × Option String := match b.target with
    | .day date => (some date.iso, none)
    | .age token => (none, some token)
  .object [("operator", .string b.comparison.symbol), ("value", .text? day),
    ("relative", .text? age)]

namespace Query

/-- The names of the negated fields, sorted. -/
def negatedNames (q : Query) : List String :=
  let names := (q.filters.filter (·.negated)).map (·.field.name) ++
    (q.bounds.filter (·.negated)).map (·.field.name)
  names.mergeSort fun a b => decide (a ≤ b)

/-- A query as a JSON value. -/
def document (q : Query) : Json :=
  .object [
    ("text", .string q.text),
    ("filters", .object (q.filters.map fun c => (c.field.name, .strings c.values))),
    ("date_filters",
      .object (q.bounds.map fun c => (c.field.name, .array (c.values.map Bound.document)))),
    ("bool_operator", .string q.connective.name),
    ("negated", .strings q.negatedNames),
    ("sort_by", .text? (q.sort.map (·.key.name))),
    ("sort_order", .string ((q.sort.map (·.direction)).getD "asc" : String)),
    ("limit", .integer? q.limit)]

end Query

/-- How long a search takes: it has the time of one moment. -/
def searchDuration : Binary64 := .finite false 0 Binary64.minExponent

/-- A search result as a JSON value, with the query as it was typed. -/
def SearchResult.document (raw : String) (r : SearchResult) : Json :=
  .object [
    ("query", .string raw),
    ("total", .integer r.total),
    ("count", .integer r.count),
    ("duration", .float searchDuration),
    ("issues", .array (r.issues.map Issue.document))]

end IssueTracker
