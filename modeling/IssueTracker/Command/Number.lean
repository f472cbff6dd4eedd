import IssueTracker.Text.Numeral

/-!
# Numbers on the command line

A whole number is written in ASCII digits, with a sign or none.  Blanks may stand around it, zeros
before it, a fraction of zeros behind it, and single underscores between its digits.  The zeros
before it may hold underscores in any number, and a hyphen may end them.
-/

namespace IssueTracker.Command

/-- A digit that a number may be written in. -/
def isNumberDigit (c : Char) : Bool := '0' ≤ c && c ≤ '9'

/-- A numeral behind a zero, without the zeros and underscores that it begins with; `last` is the
    character before it.  The last zero stays before a point, and at the end the last character. -/
def afterZero (last : Char) : List Char → Option (List Char)
  | [] => some [last]
  | c :: rest =>
    if c = '0' ∨ c = '_' then afterZero c rest
    else if c = '.' then some (last :: c :: rest)
    else if c = '-' ∨ isNumberDigit c then some (c :: rest)
    else none

/-- A numeral without the zeros before it. -/
def withoutLeadingZeros : List Char → Option (List Char)
  | [] => none
  | c :: rest =>
    if c = '0' then afterZero c rest
    else if c = '-' ∨ isNumberDigit c then some (c :: rest)
    else none

/-- A numeral without a fraction of zeros. -/
def withoutZeroFraction (cs : List Char) : List Char :=
  match cs.dropWhile (· != '.') with
  | _ :: c :: fraction =>
    if (c :: fraction).all (· == '0') then cs.takeWhile (· != '.') else cs
  | _ => cs

/-- A numeral without its underscores, if each of them separates two characters. -/
def withoutUnderscores (cs : List Char) : List Char :=
  if (Text.pieces (· == '_') cs).all (!·.isEmpty) then cs.filter (· != '_') else cs

/-- The number that digits write.  A sign counts for the length of the numeral. -/
def ofDigits? (negative : Bool) (digits : List Char) : Option Int :=
  if digits.isEmpty ∨ !digits.all isNumberDigit ∨ (1 < digits.length ∧ digits.head? = some '0') ∨
      Text.numeralLimit < digits.length + (if negative then 1 else 0) then none
  else
    let value : Int := Text.digitsValue digits
    some (if negative then -value else value)

/-- The number that a numeral behind a sign writes. -/
def unsignedNumber? (negative : Bool) (cs : List Char) : Option Int :=
  if cs.head? = some '-' then none
  else (withoutLeadingZeros cs).bind fun numeral =>
    match withoutUnderscores (withoutZeroFraction numeral) with
    | '-' :: digits => if negative then none else ofDigits? true digits
    | digits => ofDigits? negative digits

/-- The whole number that an argument writes. -/
def number? (argument : String) : Option Int :=
  match Text.trimNumber argument.toList with
  | '+' :: rest => unsignedNumber? false rest
  | '-' :: rest => unsignedNumber? true rest
  | cs => unsignedNumber? false cs

end IssueTracker.Command
