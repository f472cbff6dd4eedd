import IssueTracker.Json.Printer
import IssueTracker.Json.Reader
import IssueTracker.Store.Database
import IssueTracker.Text.Utf8

/-!
# The database file

A database is kept as one JSON value on one line, in UTF-8: the records, the labels, the
attachments, and the greatest ids given so far.  A database without tables is an empty file.  A
store is read back from its value as it was (`Store.ofDocument?_document`).
-/

namespace IssueTracker

namespace Record

/-- A record as a JSON value. -/
def document (r : Record) : Json :=
  .object [("id", .integer r.id), ("title", .string r.title),
    ("description", .string r.description), ("type", .string r.type), ("status", .string r.status),
    ("priority", .string r.priority), ("assignee", .string r.assignee),
    ("branch", .string r.branch), ("created_at", .string r.createdAt),
    ("updated_at", .string r.updatedAt), ("closed_at", .text? r.closedAt)]

/-- The record in a JSON value. -/
def ofDocument? : Json → Option Record
  | .object members => do
    let text (name : String) : Option String := (Json.member? name members).bind Json.asString?
    return {
      id := ← (Json.member? "id" members).bind Json.asInteger?
      title := ← text "title"
      description := ← text "description"
      type := ← text "type"
      status := ← text "status"
      priority := ← text "priority"
      assignee := ← text "assignee"
      branch := ← text "branch"
      createdAt := ← text "created_at"
      updatedAt := ← text "updated_at"
      closedAt := ← (Json.member? "closed_at" members).bind Json.asOptionalString? }
  | _ => none

theorem ofDocument?_document (r : Record) : ofDocument? r.document = some r := by
  obtain ⟨_, _, _, _, _, _, _, _, _, _, closedAt⟩ := r
  cases closedAt <;> rfl

end Record

namespace Label

/-- A label as a JSON value. -/
def document (l : Label) : Json := .object [("id", .integer l.id), ("name", .string l.name)]

/-- The label in a JSON value. -/
def ofDocument? : Json → Option Label
  | .object members => do
    return {
      id := ← (Json.member? "id" members).bind Json.asNat?
      name := ← (Json.member? "name" members).bind Json.asString? }
  | _ => none

theorem ofDocument?_document (l : Label) : ofDocument? l.document = some l := rfl

end Label

namespace Attachment

/-- An attachment as a JSON value. -/
def document (a : Attachment) : Json :=
  .object [("issue", .integer a.issue), ("label", .integer a.label)]

/-- The attachment in a JSON value. -/
def ofDocument? : Json → Option Attachment
  | .object members => do
    return {
      issue := ← (Json.member? "issue" members).bind Json.asInteger?
      label := ← (Json.member? "label" members).bind Json.asNat? }
  | _ => none

theorem ofDocument?_document (a : Attachment) : ofDocument? a.document = some a := rfl

end Attachment

namespace Store

/-- A store as a JSON value. -/
def document (s : Store) : Json :=
  .object [
    ("issues", .array (s.records.map Record.document)),
    ("labels", .array (s.labels.map Label.document)),
    ("attachments", .array (s.attachments.map Attachment.document)),
    ("last_issue", .integer s.lastRecord),
    ("last_label", .integer s.lastLabel)]

/-- The store in a JSON value. -/
def ofDocument? : Json → Option Store
  | .object members => do
    return {
      records := ← (Json.member? "issues" members).bind (Json.asList? Record.ofDocument?)
      labels := ← (Json.member? "labels" members).bind (Json.asList? Label.ofDocument?)
      attachments :=
        ← (Json.member? "attachments" members).bind (Json.asList? Attachment.ofDocument?)
      lastRecord := ← (Json.member? "last_issue" members).bind Json.asNat?
      lastLabel := ← (Json.member? "last_label" members).bind Json.asNat? }
  | _ => none

theorem ofDocument?_document (s : Store) : ofDocument? s.document = some s := by
  have records := Json.asList?_map Record.ofDocument?_document s.records
  have labels := Json.asList?_map Label.ofDocument?_document s.labels
  have attachments := Json.asList?_map Attachment.ofDocument?_document s.attachments
  simp [document, ofDocument?, Json.member?, records, labels, attachments, Json.asNat?]

end Store

namespace Database

/-- The content of the file of a database. -/
def content : Database → Bytes
  | ready store => Text.encodeUtf8 store.document.lineChars
  | blank | foreign | unreachable => []

/-- The database in the content of a file, if it holds one. -/
def ofContent? (content : Bytes) : Option Database :=
  match content with
  | [] => some blank
  | content => do
    let text ← (Text.decodeUtf8 content).toOption
    let value ← (Json.read text).toOption
    return ready (← Store.ofDocument? value)

end Database

end IssueTracker
