import IssueTracker.Text.CaseData
import IssueTracker.Text.Digits
import IssueTracker.Text.WordData

/-!
# Words and identifiers

The characters of words, and of the names that a text may give to things.
-/

namespace IssueTracker.Text

/-- A letter or a number of any script. -/
def isLetterOrNumber (c : Char) : Bool := inRanges letterAndNumberRanges c.toNat

/-- A character of a word: a letter, a number or an underscore. -/
def isWordChar (c : Char) : Bool := isLetterOrNumber c || c == '_'

/-- A character that an identifier may go on with. -/
def continuesIdentifier (c : Char) : Bool :=
  (isLetterOrNumber c && !inRanges outerNumberRanges c.toNat) || inRanges markRanges c.toNat

/-- The characters that go on with an identifier but do not start one, apart from decimal digits and
    marks, as closed ranges. -/
def onlyInsideRanges : List (Nat × Nat) :=
  [(0xE33, 0xE33), (0xEB3, 0xEB3), (0x1369, 0x1371), (0x19DA, 0x19DA), (0xFF9E, 0xFF9F)]

/-- The code points that start an identifier though they are no letters or numbers. -/
def otherStarts : List Nat := [0x5F, 0x1885, 0x1886, 0x2118, 0x212E]

/-- A character that an identifier may start with. -/
def startsIdentifier (c : Char) : Bool :=
  otherStarts.contains c.toNat ||
    (isLetterOrNumber c && !inRanges outerNumberRanges c.toNat && !isDecimal c &&
      !inRanges onlyInsideRanges c.toNat)

/-- The first character that keeps a text from being an identifier. -/
def outsideIdentifier? : List Char → Option Char
  | [] => none
  | c :: rest => if startsIdentifier c then rest.find? (!continuesIdentifier ·) else some c

end IssueTracker.Text
