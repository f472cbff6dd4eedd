import IssueTracker.Text.Blank
import IssueTracker.Text.Digits

/-!
# Whole numbers in texts

A whole number is written with a sign or none, and decimal digits of any script; single underscores
may separate groups of digits, and blanks may stand around it.
-/

namespace IssueTracker.Text

/-- A blank around a number: any but the four information separators. -/
def isNumberBlank (c : Char) : Bool := isBlank c && !(0x1C ≤ c.toNat && c.toNat ≤ 0x1F)

/-- A text without the blanks around the number that it writes. -/
def trimNumber (text : List Char) : List Char :=
  ((text.dropWhile isNumberBlank).reverse.dropWhile isNumberBlank).reverse

/-- The digits of a numeral whose groups are separated by single underscores. -/
def groupedDigits? (cs : List Char) : Option (List Char) :=
  let groups := pieces (· == '_') cs
  if groups.all fun group => !group.isEmpty && group.all isDecimal then some groups.flatten
  else none

/-- The whole number that a text writes: an optional sign and a numeral. -/
def wholeNumber? (text : List Char) : Option Int :=
  let trimmed := trimNumber text
  let negative := trimmed.head? == some '-'
  let unsigned := if negative || trimmed.head? == some '+' then trimmed.tail else trimmed
  match groupedDigits? unsigned with
  | none => none
  | some digits =>
    match readNumeral digits with
    | .error _ => none
    | .ok n => some (if negative then -n else n)

end IssueTracker.Text
