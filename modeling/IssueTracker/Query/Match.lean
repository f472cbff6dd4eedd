import IssueTracker.Query.Age
import IssueTracker.Text.Case
import IssueTracker.Text.Infix

/-!
# Which issues satisfy a query

A condition on a field holds when the field has one of its values, a condition on a time when all
its bounds hold.  A negated condition is inverted before the conditions are combined.
-/

namespace IssueTracker

/-- Why a query cannot be tried on an issue. -/
inductive MatchError
  /-- A bound with an age that is not of the form of an age. -/
  | malformedAge (token : String)
  | longAge (numeral : Text.LongNumeral)
  /-- A time with an offset is compared with one without. -/
  | mixedOffsets
  /-- An issue without a list of labels is asked for its labels. -/
  | noLabelList
  /-- A filter names something that issues do not have. -/
  | unknownAttribute (name : String)
  /-- A bound or an order names something that issues do not have. -/
  | unknownKey (name : String)
deriving Repr, DecidableEq

/-- What is reported of a query that cannot be tried. -/
def MatchError.message : MatchError → String
  | malformedAge token => (QueryError.invalidDate token .shape).message
  | longAge numeral => numeral.message
  | mixedOffsets => "can't compare offset-naive and offset-aware datetimes"
  | noLabelList => "argument of type 'NoneType' is not iterable"
  | unknownAttribute name => "'Issue' object has no attribute '" ++ name ++ "'"
  | unknownKey name => Text.literal name

namespace Bound

/-- The point in time that a bound compares with: the start of a day, or so long before `now`.  An
    age that reaches back beyond the calendar means its first moment. -/
def boundary (b : Bound) (now : Moment) : Except MatchError Moment :=
  match b.target with
  | .day date => .ok (.atMidnight date)
  | .age token =>
    match ageDays token with
    | .ok days => .ok ((now.minusDays? days).getD .earliest)
    | .error (.tooManyDays _) => .ok .earliest
    | .error (.malformed token) => .error (.malformedAge token)
    | .error (.longNumeral numeral) => .error (.longAge numeral)

/-- The order of two days. -/
def compareDays (a b : Date) : Ordering := compare a.ordinal b.ordinal

/-- Whether a time satisfies a bound.  Days are compared as days; ages are compared to the
    microsecond, except that an equal age means the same day.  A missing time satisfies none. -/
def holds (b : Bound) (time : Option Moment) (now : Moment) : Except MatchError Bool :=
  match time with
  | none => .ok false
  | some time => do
    let boundary ← b.boundary now
    match b.comparison, b.target with
    | .eq, _ => .ok (time.date == boundary.date)
    | comparison, .day _ => .ok (comparison.holds (compareDays time.date boundary.date))
    | comparison, .age _ =>
      match time.compare boundary with
      | .ok order => .ok (comparison.ofAges.holds order)
      | .error .mixedOffsets => .error .mixedOffsets

/-- Whether a time satisfies all bounds; those after one that fails are not looked at. -/
def allHold (time : Option Moment) (now : Moment) : List Bound → Except MatchError Bool
  | [] => .ok true
  | b :: bounds => do
    if ← b.holds time now then allHold time now bounds else .ok false

end Bound

namespace Issue

/-- A text of an issue, empty when it is missing. -/
def textOrEmpty (text : Option String) : String := text.getD ""

/-- A time of an issue. -/
def time (i : Issue) : DateField → Except MatchError (Option Moment)
  | .created => .ok i.createdAt
  | .updated => .ok i.updatedAt
  | .closed => .ok i.closedAt
  | .other name => .error (.unknownKey name)

/-- The text that a filter on a name outside of the query language compares; an id or a time that
    is present equals no text. -/
def attribute? (i : Issue) (name : String) : Except MatchError (Option String) :=
  match name with
  | "title" => .ok (some (textOrEmpty i.title))
  | "description" => .ok (some (textOrEmpty i.description))
  | "id" => .ok (if i.id.any (· != 0) then none else some "")
  | "created_at" => .ok (if i.createdAt.isSome then none else some "")
  | "updated_at" => .ok (if i.updatedAt.isSome then none else some "")
  | "closed_at" => .ok (if i.closedAt.isSome then none else some "")
  | name => .error (.unknownAttribute name)

/-- Whether the lower-case form of a text is that of one of the values. -/
def sameWord (text : Option String) (values : List String) : Bool :=
  values.any fun value => Text.lower (textOrEmpty text) == Text.lower value

/-- Whether a field has one of the values: type, status and priority in any case, a label by being
    one of the issue's, anything else exactly. -/
def hasValue (i : Issue) (field : FilterField) (values : List String) : Except MatchError Bool :=
  match field with
  | .labels =>
    match i.labels with
    | none => if values.isEmpty then .ok false else .error .noLabelList
    | some labels => .ok (values.any fun value => labels.contains (some value))
  | .type => .ok (sameWord i.type values)
  | .status => .ok (sameWord i.status values)
  | .priority => .ok (sameWord i.priority values)
  | .assignee => .ok (values.contains (textOrEmpty i.assignee))
  | .branch => .ok (values.contains (textOrEmpty i.branch))
  | .other name => do
    let text ← i.attribute? name
    .ok (text.any values.contains)

/-- The text that free text is looked for in: the title, a line end and the description.  A missing
    title reads `None`. -/
def searchText (i : Issue) : String := i.title.getD "None" ++ "\n" ++ textOrEmpty i.description

/-- Whether the title or the description holds a text, in any case. -/
def mentions (i : Issue) (text : String) : Bool :=
  Text.holds (Text.lowerChars text.toList) (Text.lowerChars i.searchText.toList)

end Issue

namespace Query

/-- The outcome of a condition, inverted when it is negated. -/
def signed (negated result : Bool) : Bool := result != negated

/-- The outcomes of the conditions on fields, in order. -/
def filterOutcomes (i : Issue) :
    List (Condition FilterField String) → Except MatchError (List Bool) :=
  List.mapM fun condition => do
    return signed condition.negated (← i.hasValue condition.field condition.values)

/-- The outcomes of the conditions on times, in order. -/
def boundOutcomes (i : Issue) (now : Moment) :
    List (Condition DateField Bound) → Except MatchError (List Bool) :=
  List.mapM fun condition => do
    let time ← i.time condition.field
    return signed condition.negated (← Bound.allHold time now condition.values)

/-- The outcomes of all parts of a query. -/
def outcomes (q : Query) (i : Issue) (now : Moment) : Except MatchError (List Bool) := do
  let filters ← filterOutcomes i q.filters
  let bounds ← boundOutcomes i now q.bounds
  return filters ++ bounds ++ (if q.text = "" then [] else [i.mentions q.text])

/-- The combined outcome; a query without parts is satisfied. -/
def combine : Connective → List Bool → Bool
  | _, [] => true
  | .and, results => results.all id
  | .or, results => results.any id

/-- Whether an issue satisfies a query. -/
def accepts (q : Query) (i : Issue) (now : Moment) : Except MatchError Bool := do
  return combine q.connective (← q.outcomes i now)

end Query

end IssueTracker
