import IssueTracker.Store.Error
import IssueTracker.Labels

/-!
# The store

Three tables: the records of the issues, the labels by name, and which label is attached to which
issue.  Ids of records and of labels ascend and are never given twice.  Times are kept as ISO 8601
text to the second.
-/

namespace IssueTracker

/-- The record of an issue, without its labels. -/
structure Record where
  id : Int
  title : String
  description : String
  type : String
  status : String
  priority : String
  assignee : String
  branch : String
  createdAt : String
  updatedAt : String
  closedAt : Option String
deriving Repr, DecidableEq

/-- A label by name. -/
structure Label where
  id : Nat
  name : String
deriving Repr, DecidableEq

/-- A label attached to an issue. -/
structure Attachment where
  issue : Int
  label : Nat
deriving Repr, DecidableEq

/-- The tables, and the greatest ids given so far. -/
structure Store where
  /-- The records, smallest id first. -/
  records : List Record := []
  labels : List Label := []
  attachments : List Attachment := []
  lastRecord : Nat := 0
  lastLabel : Nat := 0
deriving Repr, DecidableEq

/-- Whether an id is a number that the database can hold. -/
def fitsId (id : Int) : Bool := -9223372036854775808 ≤ id && id ≤ 9223372036854775807

namespace Store

/-- Strings by code point. -/
def sortNames (names : List String) : List String := names.mergeSort fun a b => decide (a ≤ b)

/-- The record with an id. -/
def record? (s : Store) (id : Int) : Option Record := s.records.find? (·.id == id)

/-- Whether a label is attached to an issue. -/
def isAttached (s : Store) (issue : Int) (label : Nat) : Bool :=
  s.attachments.contains ⟨issue, label⟩

/-- The names of the labels of an issue, sorted. -/
def labelsOf (s : Store) (issue : Int) : List String :=
  sortNames ((s.labels.filter fun l => s.isAttached issue l.id).map Label.name)

/-- The names of the labels that some issue has, sorted. -/
def usedLabels (s : Store) : List String :=
  sortNames ((s.labels.filter fun l => s.attachments.any (·.label == l.id)).map Label.name)

/-- A stored time, which may be missing. -/
def readTime (text : Option String) : Except StoreError (Option Moment) :=
  (Moment.ofIso? text).mapError .unreadableTime

/-- The issue of a record. -/
def issueOf (s : Store) (r : Record) : Except StoreError Issue := do
  let createdAt ← readTime r.createdAt
  let updatedAt ← readTime r.updatedAt
  let closedAt ← readTime r.closedAt
  return {
    title := some r.title
    description := some r.description
    type := some r.type
    status := some r.status
    priority := some r.priority
    assignee := some r.assignee
    branch := some r.branch
    labels := .ofNames (s.labelsOf r.id)
    createdAt, updatedAt, closedAt
    id := some r.id }

/-- All issues, smallest id first. -/
def issues (s : Store) : Except StoreError (List Issue) := s.records.mapM s.issueOf

/-- The issue with an id, if there is one. -/
def find? (s : Store) (id : Int) : Except StoreError (Option Issue) :=
  if fitsId id then (s.record? id).mapM s.issueOf else .error .hugeId

end Store

end IssueTracker
