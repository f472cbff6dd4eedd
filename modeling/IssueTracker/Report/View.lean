import IssueTracker.Query.Execution
import IssueTracker.Terminal.Style
import IssueTracker.Terminal.Table

/-!
# Reports for the terminal

Tables of issues, of saved searches and of what a query means, and the panel of one issue.  Texts
that people typed are escaped; names from the vocabularies are not.
-/

namespace IssueTracker

open Terminal (escaped)

/-- A text in a style. -/
def styled (style text : String) : String := "[" ++ style ++ "]" ++ text ++ "[/]"

/-- A text, or a dash for none. -/
def orDash (text : String) : String := if text = "" then "-" else text

namespace Issue

/-- The id of an issue behind a number sign. -/
def number (i : Issue) : String := "#" ++ ((i.id.map toString).getD "None")

/-- The title, empty when it is missing. -/
def titleText (i : Issue) : String := i.title.getD ""

/-- The status in its style. -/
def styledStatus (i : Issue) : String :=
  let status := i.status.getD ""
  styled (statusStyle status) status

/-- The priority in its style. -/
def styledPriority (i : Issue) : String :=
  let priority := i.priority.getD ""
  styled (priorityStyle priority) priority

/-- The names of the labels, separated by commas. -/
def labelText (i : Issue) : String := ", ".intercalate i.labelNames

end Issue

/-- A moment to the minute, empty when it is missing. -/
def displayed (m : Option Moment) : String := (m.map Moment.display).getD ""

/-- A table of issues. -/
def issueTable (issues : List Issue) : Terminal.Table Issue where
  columns := [
    { header := "ID", alignment := .right, breaks := false, cell := Issue.number },
    { header := "Title", cell := fun i => escaped i.titleText },
    { header := "Type", breaks := false, cell := fun i => i.type.getD "" },
    { header := "Status", breaks := false, cell := Issue.styledStatus },
    { header := "Priority", breaks := false, cell := Issue.styledPriority },
    { header := "Assignee", cell := fun i => escaped (orDash (i.assignee.getD "")) },
    { header := "Labels", cell := fun i => escaped i.labelText },
    { header := "Updated", breaks := false, cell := fun i => displayed i.updatedAt }]
  items := issues

/-- A line of a panel: what it is about, and a text. -/
def panelLine (about text : String) : String := styled "bold" (about ++ ":") ++ " " ++ text

/-- The panel of an issue. -/
def issuePanel (i : Issue) : Terminal.Panel :=
  let closed := (i.closedAt.map fun m => [panelLine "Closed" m.display]).getD []
  let description := i.description.getD ""
  let lines := [
      panelLine "Type" (i.type.getD ""),
      panelLine "Status" i.styledStatus,
      panelLine "Priority" i.styledPriority,
      panelLine "Assignee" (escaped (orDash (i.assignee.getD ""))),
      panelLine "Branch" (escaped (orDash (i.branch.getD ""))),
      panelLine "Labels" (escaped (orDash i.labelText)),
      panelLine "Created" (displayed i.createdAt),
      panelLine "Updated" (displayed i.updatedAt)] ++ closed ++
    if description = "" then [] else ["", escaped description]
  { title := i.number ++ " " ++ escaped i.titleText, text := "\n".intercalate lines }

/-- A table of saved searches, by name. -/
def savedTable (saved : List (String × String)) : Terminal.Table (String × String) where
  title := some s!"Saved Searches ({saved.length})"
  columns := [
    { header := "Name", breaks := false, cell := fun search => escaped search.1 },
    { header := "Query", cell := fun search => escaped search.2 }]
  items := saved.mergeSort fun a b => decide (a.1 ≤ b.1)

namespace Query

/-- What is said of a condition before its field. -/
def polarity (negated : Bool) : String := if negated then "NOT " else ""

/-- Lines, or a remark that there are none. -/
def linesOrNone (lines : List String) : String :=
  if lines.isEmpty then "(none)" else "\n".intercalate lines

/-- What the conditions on texts say, one to a line. -/
def filterText (q : Query) : String :=
  linesOrNone <| q.filters.map fun c =>
    polarity c.negated ++ c.field.name ++ " = " ++ escaped (" | ".intercalate c.values)

/-- What the conditions on times say, one to a line. -/
def boundText (q : Query) : String :=
  linesOrNone <| q.bounds.flatMap fun c => c.values.map fun b =>
    polarity c.negated ++ c.field.name ++ " " ++ b.describe

/-- What the limit says. -/
def limitText (q : Query) : String :=
  match q.limit with
  | none => "(default)"
  | some 0 => "0 (unbounded)"
  | some limit => toString limit

/-- What a query means, part by part. -/
def parts (q : Query) : List (String × String) :=
  [("Text search", if q.text = "" then "(none)" else escaped ("\"" ++ q.text ++ "\"")),
    ("Filters", q.filterText),
    ("Date filters", q.boundText),
    ("Boolean operator", q.connective.name)] ++
  (q.sort.map fun order => ("Sort", order.key.name ++ " (" ++ order.direction ++ ")")).toList ++
  [("Limit", q.limitText)]

/-- A table of what a query means. -/
def explanation (q : Query) : Terminal.Table (String × String) where
  title := some "Search Query Explanation"
  hasHeader := false
  columns := [
    { header := "Part", cell := Prod.fst },
    { header := "Value", cell := Prod.snd }]
  items := q.parts

end Query

end IssueTracker
