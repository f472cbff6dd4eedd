import IssueTracker.Text.CaseData

/-!
# Lower case

The full lower-case mapping of Unicode.  Two letters need more than a table: the dotted capital I
becomes two characters, and a capital sigma becomes the final form at the end of a word.
-/

namespace IssueTracker.Text

/-- The character at a distance from a code point. -/
def CaseRun.target (run : CaseRun) (code : Nat) : Char :=
  Char.ofNat ((code : Int) + run.distance).toNat

/-- Whether the run holds a code point. -/
def CaseRun.holds (run : CaseRun) (code : Nat) : Bool :=
  run.first ≤ code && code ≤ run.last && (code - run.first) % run.stride == 0

/-- The lower-case form of a character by itself. -/
def lowerChar (c : Char) : List Char :=
  if c = 'İ' then ['i', '\u0307']
  else match lowerRuns.find? (·.holds c.toNat) with
    | some run => [run.target c.toNat]
    | none => [c]

/-- A letter with upper- and lower-case forms. -/
def isCased (c : Char) : Bool := inRanges casedRanges c.toNat

/-- A character that the search for a neighbouring letter passes over. -/
def isCaseIgnorable (c : Char) : Bool := inRanges caseIgnorableRanges c.toNat

/-- Whether the first character that is not passed over is a cased letter. -/
def startsCased : List Char → Bool
  | [] => false
  | c :: rest => if isCaseIgnorable c then startsCased rest else isCased c

/-- The lower-case form of a text that follows a cased letter, or does not. -/
def lowerAfter (afterCased : Bool) : List Char → List Char
  | [] => []
  | c :: rest =>
    (if c = 'Σ' then [if afterCased && !startsCased rest then 'ς' else 'σ'] else lowerChar c) ++
      lowerAfter (if isCaseIgnorable c then afterCased else isCased c) rest

/-- The lower-case form of a text.  A capital sigma takes its final form after a cased letter and
    before none. -/
def lowerChars (cs : List Char) : List Char := lowerAfter false cs

/-- The lower-case form of a string. -/
def lower (s : String) : String := String.ofList (lowerChars s.toList)

/-- An ASCII capital maps as in the core library. -/
theorem lowerChar_ascii (c : Char) (h : c.toNat < 128) : lowerChar c = [c.toLower] := by
  have all : ∀ n, n < 128 → lowerChar (Char.ofNat n) = [(Char.ofNat n).toLower] := by decide +kernel
  simpa using all c.toNat h

end IssueTracker.Text
