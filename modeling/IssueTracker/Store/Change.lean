import IssueTracker.Store.Basic

/-!
# Changing the store

Insertion, update, change of status and deletion of one issue.  A change either happens as a whole,
with the labels that belong to it, or fails and leaves the store as it was.
-/

namespace IssueTracker.Store

/-! ## Labels -/

/-- The id of the label with a name, which is added when there is none. -/
def ensureLabel (s : Store) (name : String) : Nat × Store :=
  match s.labels.find? (·.name == name) with
  | some label => (label.id, s)
  | none =>
    let id := s.lastLabel + 1
    (id, { s with labels := s.labels ++ [⟨id, name⟩], lastLabel := id })

/-- Attaches the label with a name to an issue. -/
def attach (s : Store) (issue : Int) (name : String) : Store :=
  let (label, s) := s.ensureLabel name
  if s.isAttached issue label then s
  else { s with attachments := s.attachments ++ [⟨issue, label⟩] }

/-- Removes all labels from an issue. -/
def detachAll (s : Store) (issue : Int) : Store :=
  { s with attachments := s.attachments.filter (·.issue != issue) }

/-- Gives an issue these labels and no others. -/
def setLabels (s : Store) (issue : Int) (labels : LabelList) : Except StoreError Store :=
  match normalizeLabels labels with
  | none => .error .missingLabel
  | some names =>
    if names.isEmpty || (s.record? issue).isSome then
      .ok (names.foldl (fun s name => s.attach issue name) (s.detachAll issue))
    else .error .noIssueForLabel

/-! ## Records -/

/-- The value of a column that needs one. -/
def needed (column : String) : Option String → Except StoreError String
  | some value => .ok value
  | none => .error (.missingValue column)

/-- The id of the next record. -/
def nextId (s : Store) : Except StoreError Int :=
  if fitsId (s.lastRecord + 1) then .ok (s.lastRecord + 1) else .error .full

/-- Stores a new issue under the next id.  A missing creation time is the present, a missing time of
    change the creation time. -/
def insert (s : Store) (i : Issue) (now : Moment) : Except StoreError (Int × Store) := do
  let id ← s.nextId
  let title ← needed "title" i.title
  let type ← needed "type" i.type
  let status ← needed "status" i.status
  let priority ← needed "priority" i.priority
  let createdAt := (i.createdAt.getD now).isoSeconds
  let record : Record := {
    id, title, type, status, priority
    description := i.description.getD ""
    assignee := i.assignee.getD ""
    branch := i.branch.getD ""
    createdAt
    updatedAt := (i.updatedAt.map Moment.isoSeconds).getD createdAt
    closedAt := i.closedAt.map Moment.isoSeconds }
  let s := { s with records := s.records ++ [record], lastRecord := s.lastRecord + 1 }
  let s ← s.setLabels id i.labels
  return (id, s)

/-- Changes the record with an id, if there is one. -/
def modify (s : Store) (id : Int) (change : Record → Record) : Store :=
  { s with records := s.records.map fun r => if r.id = id then change r else r }

/-- A column that can be changed. -/
inductive Column
  | title
  | description
  | type
  | priority
  | assignee
  | branch
deriving Repr, DecidableEq

namespace Column

/-- The columns in the order of the table. -/
def all : List Column := [title, description, type, priority, assignee, branch]

/-- The name of a column. -/
def name : Column → String
  | title => "title"
  | description => "description"
  | type => "type"
  | priority => "priority"
  | assignee => "assignee"
  | branch => "branch"

/-- The column with a name. -/
def ofName? (name : String) : Option Column := all.find? (·.name == name)

/-- Whether a column needs a value. -/
def isNeeded : Column → Bool
  | title | type | priority => true
  | description | assignee | branch => false

/-- The record with a new value in a column; a missing one reads as empty. -/
def write (column : Column) (value : Option String) (r : Record) : Record :=
  let value := value.getD ""
  match column with
  | title => { r with title := value }
  | description => { r with description := value }
  | type => { r with type := value }
  | priority => { r with priority := value }
  | assignee => { r with assignee := value }
  | branch => { r with branch := value }

end Column

/-- A new value for a column. -/
abbrev Assignment := Column × Option String

/-- The first column, in the order of the table, that needs a value and is assigned none. -/
def missingColumn? (assignments : List Assignment) : Option Column :=
  Column.all.find? fun column => column.isNeeded && assignments.contains (column, none)

/-- Assigns new values to the record with an id, if there is one, and gives it new labels if there
    is a list of them. -/
def update (s : Store) (id : Int) (assignments : List Assignment) (labels : LabelList)
    (now : Moment) : Except StoreError Store := do
  if !fitsId id then .error .hugeId
  match s.record? id, missingColumn? assignments with
  | some _, some column => .error (.missingValue column.name)
  | _, _ =>
    let change (r : Record) : Record :=
      { assignments.foldl (fun r assignment => assignment.1.write assignment.2 r) r with
        updatedAt := now.isoSeconds }
    let s := s.modify id change
    if labels.isSome then s.setLabels id labels else .ok s

/-- The names that are no columns that can be changed, or the assignments with these names. -/
def assignments (fields : List (String × Option String)) : Except StoreError (List Assignment) :=
  let unknown := (fields.map Prod.fst).filter fun name => (Column.ofName? name).isNone
  if unknown.isEmpty then
    .ok (fields.filterMap fun (name, value) => (Column.ofName? name).map (·, value))
  else .error (.cannotUpdate (sortNames unknown))

/-- Moves the issue with an id to a status and answers the one before.  A closing status keeps the
    time of closing or takes the present; any other clears it. -/
def setStatus (s : Store) (id : Int) (status : Option String) (now : Moment) :
    Except StoreError (String × Store) := do
  if !fitsId id then .error .hugeId
  match s.record? id with
  | none => .error (.noRecord id)
  | some r =>
    let status ← needed "status" status
    let closedAt := if isClosing status then some (r.closedAt.getD now.isoSeconds) else none
    let change (r : Record) : Record := { r with status, closedAt, updatedAt := now.isoSeconds }
    return (r.status, s.modify id change)

/-- Deletes the issue with an id, and with it its attachments; answers whether there was one. -/
def delete (s : Store) (id : Int) : Except StoreError (Bool × Store) :=
  if !fitsId id then .error .hugeId
  else if (s.record? id).isSome then
    .ok (true, { s.detachAll id with records := s.records.filter (·.id != id) })
  else .ok (false, s)

end IssueTracker.Store
