import IssueTracker.Query.Error

/-!
# Bounds on times

A bound is written as an optional comparison and either a day, `YYYY-MM-DD`, or an age: a number and
one of the units d, w, m and y.  A month counts thirty days and a year 365.
-/

namespace IssueTracker

/-- A unit of age. -/
inductive AgeUnit
  | day
  | week
  | month
  | year
deriving Repr, DecidableEq

namespace AgeUnit

/-- The days of a unit. -/
def days : AgeUnit → Nat
  | day => 1
  | week => 7
  | month => 30
  | year => 365

/-- The unit that a letter stands for. -/
def ofLetter? : Char → Option AgeUnit
  | 'd' => some day
  | 'w' => some week
  | 'm' => some month
  | 'y' => some year
  | _ => none

end AgeUnit

/-- The digits and the unit of an age: digits of any script, the unit's letter, and at most one line
    end. -/
def ageParts? (cs : List Char) : Option (List Char × AgeUnit) :=
  let digits := cs.takeWhile Text.isDecimal
  if digits.isEmpty then none
  else match cs.dropWhile Text.isDecimal with
    | [letter] => (AgeUnit.ofLetter? letter).map (digits, ·)
    | [letter, '\n'] => (AgeUnit.ofLetter? letter).map (digits, ·)
    | _ => none

/-- Whether a text has the shape of a day: `YYYY-MM-DD` in digits of any script, and at most one
    line end. -/
def hasDayShape (cs : List Char) : Bool :=
  let shape := cs.map fun c => if Text.isDecimal c then '0' else c
  shape == "0000-00-00".toList || shape == "0000-00-00\n".toList

/-- The comparison that a text starts with, and the rest.  Those of two characters come first. -/
def splitComparison (cs : List Char) : Comparison × List Char :=
  match Comparison.all.find? (·.symbol.toList.isPrefixOf cs) with
  | some comparison => (comparison, cs.drop comparison.symbol.length)
  | none => (.eq, cs)

namespace Bound

/-- The bound that an expression writes.  A token is blamed for an expression that writes none. -/
def read (expression token : String) : Except QueryError Bound :=
  let (comparison, rest) := splitComparison expression.toList
  if (ageParts? rest).isSome then .ok ⟨comparison, .age (String.ofList rest)⟩
  else if hasDayShape rest then
    match Date.ofIso (String.ofList rest) with
    | .ok date => .ok ⟨comparison, .day date⟩
    | .error error => .error (.invalidDate token (.calendar error))
  else .error (.invalidDate token .shape)

/-- What is blamed for an expression that writes no bound: the token that it stands in, or itself where
    there is none or an empty one. -/
def blamed (expression : String) (token : Option String) : String :=
  (token.filter (· != "")).getD expression

/-- The bound that an expression writes, in a token or by itself. -/
def ofExpression (expression : String) (token : Option String) : Except QueryError Bound :=
  read expression (blamed expression token)

/-- The bound with a comparison of the given name and exactly one target. -/
def make (symbol : String) (date : Option Date) (age : Option String) : Except QueryError Bound :=
  match Comparison.all.find? (·.symbol == symbol), date, age with
  | none, _, _ => .error (.invalidDate symbol .unknownComparison)
  | some comparison, some date, none => .ok ⟨comparison, .day date⟩
  | some comparison, none, some token => .ok ⟨comparison, .age token⟩
  | some _, some date, some _ => .error (.invalidDate date.iso .notOneTarget)
  | some _, none, none => .error (.invalidDate "" .notOneTarget)

end Bound

/-- The longest time that can be reckoned with, in days. -/
def maxDays : Nat := 999999999

/-- Why an age is no length of time. -/
inductive AgeError
  | malformed (token : String)
  | longNumeral (numeral : Text.LongNumeral)
  /-- More days than can be reckoned with. -/
  | tooManyDays (days : Nat)
deriving Repr, DecidableEq

/-- What is reported of an age that is no length of time. -/
def AgeError.message : AgeError → String
  | malformed token => (QueryError.invalidDate token .shape).message
  | longNumeral numeral => numeral.message
  | tooManyDays days =>
    if days ≤ 2147483647 then s!"days={days}; must have magnitude <= {maxDays}"
    else "Python int too large to convert to C int"

/-- The days of an age. -/
def ageDays (token : String) : Except AgeError Nat :=
  match ageParts? token.toList with
  | none => .error (.malformed token)
  | some (digits, unit) =>
    match Text.readNumeral digits with
    | .error numeral => .error (.longNumeral numeral)
    | .ok amount =>
      let days := amount * unit.days
      if days ≤ maxDays then .ok days else .error (.tooManyDays days)

end IssueTracker
