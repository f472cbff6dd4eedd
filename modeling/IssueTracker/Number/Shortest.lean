import IssueTracker.Number.Binary64

/-!
# The shortest decimal of a floating-point number

The fewest decimal digits that read back as the number, and of those the ones nearest to it.  They
are written positionally from `0.0001` to below `10^16`, and otherwise with an exponent.
-/

namespace IssueTracker.Binary64

/-- The number of decimal digits of a whole number. -/
def digitCount (n : Nat) : Nat := (Nat.toDigits 10 n).length

/-- The exponent `p` with `10 ^ (p - 1) ≤ num / den < 10 ^ p`. -/
def decimalExponent (num den : Nat) : Int :=
  if den ≤ num then digitCount (num / den)
  else
    let c := digitCount (den / num)
    if num * Nat.pow 10 (c - 1) < den then 1 - c else 2 - c

/-- A fraction divided by a power of ten, as numerator and denominator. -/
def scaleDecimal (num den : Nat) (exponent : Int) : Nat × Nat :=
  (num * Nat.pow 10 (-exponent).toNat, den * Nat.pow 10 exponent.toNat)

/-- Four times the number, and the two ends of the interval that rounds to it, over one
    denominator. -/
structure Interval where
  value : Nat
  low : Nat
  high : Nat
  den : Nat
  /-- Whether the ends round to the number, too. -/
  closed : Bool

/-- The interval of a positive number. -/
def interval (mantissa : Nat) (exponent : Int) : Interval :=
  let scale := Nat.pow 2 (exponent - 2).toNat
  let below := if mantissa = Nat.pow 2 52 ∧ minExponent < exponent then 1 else 2
  { value := 4 * mantissa * scale
    low := (4 * mantissa - below) * scale
    high := (4 * mantissa + 2) * scale
    den := Nat.pow 2 (2 - exponent).toNat
    closed := mantissa % 2 = 0 }

/-- Whether `digits * 10 ^ exponent` reads back as the number. -/
def Interval.holds (i : Interval) (digits : Nat) (exponent : Int) : Bool :=
  let scaled := digits * Nat.pow 10 exponent.toNat * i.den
  let scale := Nat.pow 10 (-exponent).toNat
  if i.closed then i.low * scale ≤ scaled ∧ scaled ≤ i.high * scale
  else i.low * scale < scaled ∧ scaled < i.high * scale

/-- The multiple of `10 ^ exponent` nearest to the number, if one that is next to it reads back. -/
def Interval.nearest? (i : Interval) (exponent : Int) : Option Nat :=
  let (num, den) := scaleDecimal i.value i.den exponent
  let below := num / den
  let twice := 2 * (num % den)
  let preferBelow := twice < den ∨ (twice = den ∧ below % 2 = 0)
  match i.holds below exponent, i.holds (below + 1) exponent with
  | true, true => some (if preferBelow then below else below + 1)
  | true, false => some below
  | false, true => some (below + 1)
  | false, false => none

/-- The digits and the exponent of the shortest decimal, tried with `tried` digits first. -/
def Interval.shortest (i : Interval) (places : Int) : Nat → Nat → Nat × Int
  | _, 0 => (0, 0)
  | tried, fuel + 1 =>
    match i.nearest? (places - tried) with
    | some digits => (digits, places - tried)
    | none => i.shortest places (tried + 1) fuel

/-- The digits without the zeros at the end. -/
def trimZeros (digits : List Char) : List Char := (digits.reverse.dropWhile (· == '0')).reverse

/-- The text of `digits * 10 ^ exponent` for digits that do not start with zero. -/
def decimalText (digits : List Char) (exponent : Int) : List Char :=
  let point := (digits.length : Int) + exponent
  let digits := trimZeros digits
  if -4 < point ∧ point ≤ 16 then
    if point ≤ 0 then '0' :: '.' :: List.replicate (-point).toNat '0' ++ digits
    else
      let whole := digits.take point.toNat
      let fraction := digits.drop point.toNat
      whole ++ List.replicate (point.toNat - whole.length) '0' ++ '.' ::
        (if fraction.isEmpty then ['0'] else fraction)
  else
    let power := point - 1
    let size := Nat.toDigits 10 power.natAbs
    digits.take 1 ++ (if digits.length ≤ 1 then [] else '.' :: digits.drop 1) ++ 'e' ::
      (if power < 0 then '-' else '+') :: (if size.length < 2 then '0' :: size else size)

/-- The text of a finite number. -/
def finiteText (negative : Bool) (mantissa : Nat) (exponent : Int) : String :=
  let sign := if negative then ['-'] else []
  if mantissa = 0 then String.ofList (sign ++ "0.0".toList)
  else
    let i := interval mantissa exponent
    let (digits, power) := i.shortest (decimalExponent i.value i.den) 1 17
    String.ofList (sign ++ decimalText (Nat.toDigits 10 digits) power)

end IssueTracker.Binary64
