/-!
# Binary floating point

The numbers of the 64-bit binary format, as exact dyadic fractions, and the one nearest to a decimal
fraction.
-/

namespace IssueTracker

/-- A number of the 64-bit binary format.  A finite one is `mantissa * 2 ^ exponent`, where the
    mantissa has 53 binary digits, or fewer at the least exponent. -/
inductive Binary64
  | finite (negative : Bool) (mantissa : Nat) (exponent : Int)
  | infinity (negative : Bool)
  | nan
deriving Repr, DecidableEq

namespace Binary64

/-- The least exponent. -/
def minExponent : Int := -1074

/-- The greatest exponent. -/
def maxExponent : Int := 971

/-- A fraction divided by a power of two, as numerator and denominator. -/
def scaleDown (num den : Nat) (exponent : Int) : Nat × Nat :=
  (num * Nat.pow 2 (-exponent).toNat, den * Nat.pow 2 exponent.toNat)

/-- The whole number nearest to a fraction, the even one of two that are equally near. -/
def roundHalfEven (num den : Nat) : Nat :=
  let quotient := num / den
  let twice := 2 * (num % den)
  if twice < den ∨ (twice = den ∧ quotient % 2 = 0) then quotient else quotient + 1

/-- The number nearest to the fraction `num / den`. -/
def ofFraction (negative : Bool) (num den : Nat) : Binary64 :=
  if num = 0 then .finite negative 0 minExponent
  else
    let guess := max ((num.log2 : Int) - den.log2 - 53) minExponent
    let (n, d) := scaleDown num den guess
    let exponent := if n / d < Nat.pow 2 53 then guess else guess + 1
    let (n, d) := scaleDown num den exponent
    let mantissa := roundHalfEven n d
    let (mantissa, exponent) :=
      if mantissa = Nat.pow 2 53 then (Nat.pow 2 52, exponent + 1) else (mantissa, exponent)
    if maxExponent < exponent then .infinity negative else .finite negative mantissa exponent

/-- The number nearest to `digits * 10 ^ exponent`. -/
def ofDecimal (negative : Bool) (digits : Nat) (exponent : Int) : Binary64 :=
  let places := ((Nat.toDigits 10 digits).length : Int) + exponent
  if digits = 0 ∨ places < -330 then .finite negative 0 minExponent
  else if 310 < places then .infinity negative
  else ofFraction negative (digits * Nat.pow 10 exponent.toNat) (Nat.pow 10 (-exponent).toNat)

/-- Zero of either sign. -/
def isZero : Binary64 → Bool
  | .finite _ 0 _ => true
  | _ => false

/-- The whole part of a finite number, rounded toward zero. -/
def truncate? : Binary64 → Option Int
  | .finite negative mantissa exponent =>
    let size : Int := (mantissa * Nat.pow 2 exponent.toNat / Nat.pow 2 (-exponent).toNat : Nat)
    some (if negative then -size else size)
  | _ => none

end Binary64

end IssueTracker
