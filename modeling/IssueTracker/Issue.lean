import IssueTracker.Calendar.Moment

/-!
# Issues

An issue as callers hand it in and get it back, and the three vocabularies.  A vocabulary is listed
in rank order: by workflow for the status, by severity for the priority.
-/

namespace IssueTracker

/-- The types of work. -/
def issueTypes : List String := ["bug", "feature", "task", "epic", "improvement"]

/-- The statuses, in workflow order. -/
def statuses : List String := ["open", "in-progress", "review", "done", "closed"]

/-- The priorities, the lowest first. -/
def priorities : List String := ["low", "medium", "high", "critical"]

def defaultType : String := "task"
def defaultStatus : String := "open"
def defaultPriority : String := "medium"

/-- A status that ends the work on an issue. -/
def isClosing (status : String) : Bool := status == "done" || status == "closed"

/-- Labels as callers give them: the list, or any of its entries, may be missing. -/
abbrev LabelList := Option (List (Option String))

/-- Labels of which none is missing. -/
def LabelList.ofNames (names : List String) : LabelList := some (names.map some)

/-- An issue.  Every text may be missing; an issue that was stored has an id and all of them. -/
structure Issue where
  title : Option String
  description : Option String := some ""
  type : Option String := some defaultType
  status : Option String := some defaultStatus
  priority : Option String := some defaultPriority
  assignee : Option String := some ""
  branch : Option String := some ""
  labels : LabelList := some []
  createdAt : Option Moment := none
  updatedAt : Option Moment := none
  closedAt : Option Moment := none
  id : Option Int := none
deriving DecidableEq

/-- The labels of an issue, without the missing ones. -/
def Issue.labelNames (i : Issue) : List String := (i.labels.getD []).filterMap fun label => label

end IssueTracker
