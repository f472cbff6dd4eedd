import IssueTracker.Issue
import IssueTracker.Text.Blank

/-!
# Labels

Labels are compared exactly, after the blanks at both ends are removed; empty ones and repetitions
are dropped.
-/

namespace IssueTracker

/-- The values with a new one at the end, unless it is there. -/
def addNew {α : Type} [DecidableEq α] (values : List α) (value : α) : List α :=
  if value ∈ values then values else values ++ [value]

/-- The values without repetitions, each where it occurs first. -/
def distinct {α : Type} [DecidableEq α] (values : List α) : List α := values.foldl addNew []

/-- The names with that of one more text: the text without the blanks around it, unless nothing is left
    of it or it is one of the names. -/
def addName (names : List String) (text : List Char) : List String :=
  let name := String.ofList (Text.trim text)
  if name = "" ∨ name ∈ names then names else names ++ [name]

/-- The names among texts: trimmed, not empty, each once. -/
def labelNames (texts : List (List Char)) : List String := texts.foldl addName []

/-- The label names of a list as callers give it, or `none` when an entry is missing. -/
def normalizeLabels (labels : LabelList) : Option (List String) :=
  ((labels.getD []).mapM fun label => label).map fun names => labelNames (names.map String.toList)

/-- The label names in a text that separates them by commas or line ends; a line end counts as a comma. -/
def splitLabels (text : String) : List String :=
  labelNames (Text.pieces (· == ',') (text.toList.map fun c => if c = '\n' then ',' else c))

end IssueTracker
