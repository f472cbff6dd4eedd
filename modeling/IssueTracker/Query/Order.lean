import IssueTracker.Query.Match

/-!
# The order of issues

Issues are ordered by a key, those that lack it last in both directions.  Equal keys keep the order
of the ids, smallest first, also when the key descends.
-/

namespace IssueTracker

/-- The value of an issue that it is ordered by.  Values of one key are of one kind. -/
inductive SortValue
  | number (value : Int)
  | text (value : String)
  | time (value : Moment)
deriving DecidableEq

/-- A text as a sort value, `none` when it is missing or empty. -/
def SortValue.ofText (text : Option String) : Option SortValue :=
  if Issue.textOrEmpty text = "" then none else some (.text (Issue.textOrEmpty text))

/-- The place of a word in a vocabulary, in any case. -/
def rank? (vocabulary : List String) (word : Option String) : Option Nat :=
  vocabulary.idxOf? (Text.lower (Issue.textOrEmpty word))

/-- The value that an issue is ordered by.  Titles and types are compared in lower case; an unknown
    status ranks after all others and an unknown priority before. -/
def SortKey.value? (key : SortKey) (i : Issue) : Except MatchError (Option SortValue) :=
  match key with
  | id => .ok (i.id.map .number)
  | title => .ok (SortValue.ofText (i.title.map Text.lower))
  | type => .ok (SortValue.ofText (i.type.map Text.lower))
  | status => .ok (some (.number ((rank? statuses i.status).getD statuses.length)))
  | priority => .ok (some (.number (((rank? priorities i.priority).map Int.ofNat).getD (-1))))
  | assignee => .ok (SortValue.ofText i.assignee)
  | branch => .ok (SortValue.ofText i.branch)
  | created => .ok (i.createdAt.map .time)
  | updated => .ok (i.updatedAt.map .time)
  | closed => .ok (i.closedAt.map .time)
  | other name => .error (.unknownKey name)

/-- Whether a value may stand before another one in ascending order. -/
def SortValue.le : SortValue → SortValue → Bool
  | number a, number b => a ≤ b
  | text a, text b => a ≤ b
  | time a, time b => a.instant ≤ b.instant
  | _, _ => true

/-- Whether times with and without an offset are among the values. -/
def mixesOffsets (values : List SortValue) : Bool :=
  let naive : SortValue → Option Bool
    | .time t => some t.isNaive
    | _ => none
  values.any (naive · == some true) && values.any (naive · == some false)

/-- Issues by id, a missing one counting as zero; issues of one id stay in order. -/
def sortById (issues : List Issue) : List Issue :=
  issues.mergeSort fun a b => a.id.getD 0 ≤ b.id.getD 0

/-- Issues with their values by value; issues of equal values stay in order. -/
def sortByValue (descending : Bool) (issues : List (SortValue × Issue)) :
    List (SortValue × Issue) :=
  issues.mergeSort fun a b => if descending then b.1.le a.1 else a.1.le b.1

/-- The issues in an order. -/
def sortIssues (issues : List Issue) (order : SortOrder) : Except MatchError (List Issue) :=
  match order.key with
  | .other name => .error (.unknownKey name)
  | key => do
    let valued ← (sortById issues).mapM fun i => do return (← key.value? i, i)
    let present := valued.filterMap fun (value, i) => value.map (·, i)
    let missing := valued.filterMap fun (value, i) => if value.isNone then some i else none
    if mixesOffsets (present.map Prod.fst) then .error .mixedOffsets
    else .ok ((sortByValue order.descending present).map Prod.snd ++ missing)

end IssueTracker
