/-!
# Decimal digits and numerals

The decimal digits of every script, each a run of ten code points from its zero, and the numbers
they write.  A numeral may have at most `numeralLimit` digits, counting leading zeros.
-/

namespace IssueTracker.Text

/-- The code points of the zeros of all scripts, ascending. -/
def digitZeros : List Nat :=
  [0x30, 0x660, 0x6F0, 0x7C0, 0x966, 0x9E6, 0xA66, 0xAE6, 0xB66, 0xBE6, 0xC66, 0xCE6, 0xD66, 0xDE6,
   0xE50, 0xED0, 0xF20, 0x1040, 0x1090, 0x17E0, 0x1810, 0x1946, 0x19D0, 0x1A80, 0x1A90, 0x1B50,
   0x1BB0, 0x1C40, 0x1C50, 0xA620, 0xA8D0, 0xA900, 0xA9D0, 0xA9F0, 0xAA50, 0xABF0, 0xFF10, 0x104A0,
   0x10D30, 0x11066, 0x110F0, 0x11136, 0x111D0, 0x112F0, 0x11450, 0x114D0, 0x11650, 0x116C0,
   0x11730, 0x118E0, 0x11950, 0x11C50, 0x11D50, 0x11DA0, 0x16A60, 0x16AC0, 0x16B50, 0x1D7CE,
   0x1D7D8, 0x1D7E2, 0x1D7EC, 0x1D7F6, 0x1E140, 0x1E2F0, 0x1E950, 0x1FBF0]

/-- The value of a decimal digit of any script. -/
def digitValue? (c : Char) : Option Nat :=
  (digitZeros.find? fun first => first ≤ c.toNat && c.toNat < first + 10).map (c.toNat - ·)

/-- A decimal digit of any script. -/
def isDecimal (c : Char) : Bool := (digitValue? c).isSome

/-- The number written by digits, the most significant first; other characters count as zero. -/
def digitsValue (ds : List Char) : Nat :=
  ds.foldl (fun acc c => 10 * acc + (digitValue? c).getD 0) 0

/-- The most digits that a numeral may have. -/
def numeralLimit : Nat := 4300

/-- A numeral of more digits than may be read. -/
structure LongNumeral where
  digits : Nat
deriving Repr, DecidableEq

/-- What is reported of a numeral that is too long. -/
def LongNumeral.message (e : LongNumeral) : String :=
  s!"Exceeds the limit ({numeralLimit} digits) for integer string conversion: value has " ++
  s!"{e.digits} digits; use sys.set_int_max_str_digits() to increase the limit"

/-- The number that a run of digits writes. -/
def readNumeral (ds : List Char) : Except LongNumeral Nat :=
  if numeralLimit < ds.length then .error ⟨ds.length⟩ else .ok (digitsValue ds)

/-- The ASCII digit of a number below ten. -/
def digitChar (n : Nat) : Char := Char.ofNat (48 + n)

/-- The last `width` decimal digits of a number, the most significant first. -/
def fixedDigits : Nat → Nat → List Char
  | 0, _ => []
  | width + 1, n => fixedDigits width (n / 10) ++ [digitChar (n % 10)]

/-- The last `width` hexadecimal digits of a number, the most significant first, in lower case. -/
def hexDigits : Nat → Nat → List Char
  | 0, _ => []
  | width + 1, n =>
    let d := n % 16
    hexDigits width (n / 16) ++ [Char.ofNat (if d < 10 then 48 + d else 87 + d)]

/-- The value of a hexadecimal digit. -/
def hexValue? (c : Char) : Option Nat :=
  if '0' ≤ c ∧ c ≤ '9' then some (c.toNat - 48)
  else if 'a' ≤ c ∧ c ≤ 'f' then some (c.toNat - 87)
  else if 'A' ≤ c ∧ c ≤ 'F' then some (c.toNat - 55)
  else none

theorem length_fixedDigits (width n : Nat) : (fixedDigits width n).length = width := by
  induction width generalizing n with
  | zero => rfl
  | succ width ih => simp [fixedDigits, ih]

end IssueTracker.Text
