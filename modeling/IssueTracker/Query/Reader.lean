import IssueTracker.Query.Age
import IssueTracker.Query.Token
import IssueTracker.Labels
import IssueTracker.Text.Case

/-!
# Reading queries

A query is read token by token.  Conditions of one field gather their values, and must all be plain
or all negated; the last connective holds for the whole query; a run of `NOT` negates the condition
after it when its length is odd.
-/

namespace IssueTracker

/-- What has been read of a query. -/
structure Draft where
  text : List (List Char) := []
  filters : List (Condition FilterField String) := []
  bounds : List (Condition DateField Bound) := []
  connective : Option Connective := none
  sort : Option SortOrder := none
  limit : Option Nat := none
  /-- The connectives that replaced another one. -/
  switches : List Connective := []
  /-- Whether the run of `NOT` before the next token negates; `none` when there is no such run. -/
  pending : Option Bool := none
deriving DecidableEq

/-- The values that stand for a field in a token; none of them is empty. -/
def filterValues (field : FilterField) (value : List Char) : Except QueryError (List String) :=
  match field.vocabulary? with
  | some allowed =>
    let word := String.ofList (Text.lowerChars (Text.trim value))
    if allowed.contains word then .ok [word]
    else .error (.invalidValue field.name (String.ofList value) allowed)
  | none =>
    let parts := if field = .labels then Text.pieces (· == ',') value else [value]
    match (parts.map Text.trim).filter (!·.isEmpty) with
    | [] => .error (.invalidValue field.name (String.ofList value) [])
    | values => .ok (values.map String.ofList)

/-- The conditions with more values for a field: joined to its condition by `merge`, or as a new
    condition at the end. -/
def addCondition {φ ν : Type} [DecidableEq φ] (merge : List ν → List ν → List ν) (field : φ)
    (negated : Bool) (values : List ν) : List (Condition φ ν) → List (Condition φ ν)
  | [] => [⟨field, merge [] values, negated⟩]
  | condition :: others =>
    if condition.field = field then
      { condition with values := merge condition.values values } :: others
    else condition :: addCondition merge field negated values others

/-- Whether a condition of the field stands with the other polarity. -/
def conflicts {φ ν : Type} [DecidableEq φ] (field : φ) (negated : Bool)
    (conditions : List (Condition φ ν)) : Bool :=
  conditions.any fun condition => condition.field = field ∧ condition.negated ≠ negated

/-- The limit that a value writes: digits of any script, and at most one line end. -/
def readLimit (value token : List Char) : Except Rejection Nat :=
  let digits := if value.getLast? = some '\n' then value.dropLast else value
  if digits.isEmpty ∨ ¬digits.all Text.isDecimal then
    .error (.query (.invalidLimit (String.ofList token)))
  else (Text.readNumeral digits).mapError .longLimit

/-- The order that a value writes: a key and, after a colon, a direction. -/
def readSort (value : List Char) : Except QueryError SortOrder :=
  let key := String.ofList (Text.lowerChars (value.takeWhile (· != ':')))
  let direction := String.ofList (Text.lowerChars ((value.dropWhile (· != ':')).drop 1))
  if key = "" then
    .error (.invalidValue "sort" (String.ofList value) (SortKey.all.map SortKey.name))
  else match SortKey.ofName? key with
    | none => .error (.unknownField key)
    | some key =>
      if direction = "" ∨ direction = "asc" then .ok ⟨key, false⟩
      else if direction = "desc" then .ok ⟨key, true⟩
      else .error (.invalidSort direction)

/-- Fails with a query error. -/
def reject {α : Type} (error : QueryError) : Except Rejection α := .error (.query error)

namespace Draft

/-- Fails when a run of `NOT` stands before a token that cannot be negated. -/
def noPending (d : Draft) (token : Token) : Except Rejection Unit :=
  if d.pending.isSome then reject (.invalidNegation (String.ofList token)) else .ok ()

/-- Reads one more token. -/
def step (d : Draft) (token : Token) : Except Rejection Draft :=
  let negated := d.pending.getD false
  match Lexeme.ofToken token with
  | .not => .ok { d with pending := some (!negated) }
  | .connective connective => do
    d.noPending token
    let switched := d.connective.any (· != connective)
    .ok { d with
      connective := some connective
      switches := if switched then d.switches ++ [connective] else d.switches }
  | .unknown name => reject (.unknownField (String.ofList name))
  | .sort value => do
    d.noPending token
    let order ← (readSort value).mapError .query
    .ok { d with sort := some order }
  | .limit value => do
    d.noPending token
    let limit ← readLimit value token
    .ok { d with limit := some limit }
  | .filter field value =>
    if conflicts field negated d.filters then
      reject (.conflictingNegation field.name (String.ofList token))
    else do
      let values ← (filterValues field value).mapError .query
      .ok { d with
        filters := addCondition (List.foldl addNew) field negated values d.filters
        pending := none }
  | .date field value =>
    if conflicts field negated d.bounds then
      reject (.conflictingNegation field.name (String.ofList token))
    else do
      let bound ← (Bound.read (String.ofList value) (String.ofList token)).mapError .query
      .ok { d with
        bounds := addCondition (· ++ ·) field negated [bound] d.bounds
        pending := none }
  | .text value => do
    d.noPending token
    .ok { d with text := if value.isEmpty then d.text else d.text ++ [value] }

/-- The finished query; a run of `NOT` must not stand at the end. -/
def finish (d : Draft) : Except Rejection Query :=
  if d.pending.isSome then reject (.invalidNegation "")
  else .ok {
    text := " ".intercalate (d.text.map String.ofList)
    filters := d.filters
    bounds := d.bounds
    connective := d.connective.getD .and
    sort := d.sort
    limit := d.limit.map Int.ofNat }

end Draft

/-- What a text is read as: the query, and each connective that replaced another one. -/
structure Reading where
  query : Query
  switches : List Connective
deriving DecidableEq

/-- The draft after a list of tokens. -/
def readTokens (tokens : List Token) : Except Rejection Draft := tokens.foldlM Draft.step {}

/-- Reads a query. -/
def readQuery (raw : String) : Except Rejection Reading := do
  let draft ← readTokens (tokenize raw.toList)
  let query ← draft.finish
  .ok ⟨query, draft.switches⟩

/-- The query that a text writes. -/
def parseQuery (raw : String) : Except Rejection Query := (readQuery raw).map Reading.query

/-- The warning for a connective that replaced another one. -/
def switchWarning (connective : Connective) : String :=
  "Query mixes AND and OR; using " ++ connective.name ++ " for the whole query"

end IssueTracker
