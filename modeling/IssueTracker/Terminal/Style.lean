import IssueTracker.Issue

/-!
# Styles

The named styles in which issues are shown.
-/

namespace IssueTracker

/-- The style of what matters less. -/
def mutedStyle : String := "dim"

/-- The style of a status. -/
def statusStyle (status : String) : String :=
  match status with
  | "open" => "green"
  | "in-progress" => "yellow"
  | "review" => "cyan"
  | "done" => "blue"
  | "closed" => "magenta"
  | _ => mutedStyle

/-- The style of a priority. -/
def priorityStyle (priority : String) : String :=
  match priority with
  | "low" => mutedStyle
  | "medium" => "white"
  | "high" => "yellow"
  | "critical" => "bold red"
  | _ => mutedStyle

end IssueTracker
