import Mathlib.Algebra.Order.Field.Power
import Mathlib.Data.Rat.Floor
import IssueTracker.Proofs.Number.Binary64

/-!
# Floating-point numbers as fractions

The value of a finite number, and that its whole part is that value rounded toward zero
(`Binary64.truncate?_finite`).
-/

namespace IssueTracker

/-- A fraction rounded toward zero. -/
def towardZero (v : ℚ) : ℤ := if v < 0 then ⌈v⌉ else ⌊v⌋

theorem towardZero_of_nonneg {v : ℚ} (above : 0 ≤ v) : towardZero v = ⌊v⌋ := by
  rw [towardZero, if_neg (not_lt.mpr above)]

theorem towardZero_neg {v : ℚ} (above : 0 ≤ v) : towardZero (-v) = -⌊v⌋ := by
  by_cases isZero : v = 0
  · simp [isZero, towardZero]
  · have below : -v < 0 := by
      rw [neg_lt_zero]
      exact lt_of_le_of_ne above (Ne.symm isZero)
    rw [towardZero, if_pos below, Int.ceil_neg]

/-- Just the fractions above minus one are not negative once they are rounded. -/
theorem towardZero_nonneg_iff (v : ℚ) : 0 ≤ towardZero v ↔ -1 < v := by
  rw [towardZero]
  by_cases below : v < 0
  · rw [if_pos below]
    have ceiling := Int.lt_ceil (z := -1) (a := v)
    push_cast at ceiling
    rw [← ceiling]
    omega
  · have above : 0 ≤ v := not_lt.mp below
    rw [if_neg below]
    exact ⟨fun _ => lt_of_lt_of_le (by decide) above, fun _ => Int.floor_nonneg.mpr above⟩

namespace Binary64

/-- The value of a finite number. -/
def value (negative : Bool) (mantissa : Nat) (exponent : Int) : ℚ :=
  (if negative then -1 else 1) * (mantissa * 2 ^ exponent)

/-- The whole part of `mantissa * 2 ^ exponent` is what is left when it is rounded down. -/
theorem floor_eq_wholeSize (mantissa : Nat) (exponent : Int) :
    ⌊(mantissa * 2 ^ exponent : ℚ)⌋ = wholeSize mantissa exponent := by
  rw [wholeSize]
  rcases Int.le_total 0 exponent with up | down
  · obtain ⟨power, rfl⟩ := Int.eq_ofNat_of_zero_le up
    have whole : (mantissa * 2 ^ (power : ℤ) : ℚ) = ((mantissa * 2 ^ power : ℕ) : ℚ) := by
      push_cast
      rw [zpow_natCast]
    rw [whole, Int.floor_natCast]
    simp
  · obtain ⟨power, rfl⟩ := Int.exists_eq_neg_ofNat down
    have quotient : (mantissa * 2 ^ (-(power : ℤ)) : ℚ) = ((mantissa : ℕ) / (2 ^ power : ℕ) : ℚ) := by
      push_cast
      rw [zpow_neg, zpow_natCast, div_eq_mul_inv]
    rw [quotient, Rat.floor_natCast_div_natCast]
    simp

theorem truncate?_finite (negative : Bool) (mantissa : Nat) (exponent : Int) :
    (finite negative mantissa exponent).truncate? = some (towardZero (value negative mantissa exponent)) := by
  have size : (0 : ℚ) ≤ mantissa * 2 ^ exponent := by positivity
  have whole := floor_eq_wholeSize mantissa exponent
  rw [truncate?, value]
  cases negative with
  | true =>
    have isNegated : (if true then -1 else 1) * (mantissa * 2 ^ exponent : ℚ) = -(mantissa * 2 ^ exponent) := by
      simp
    rw [isNegated, towardZero_neg size, whole]
    rfl
  | false =>
    have isSame : (if false then -1 else 1) * (mantissa * 2 ^ exponent : ℚ) = mantissa * 2 ^ exponent := by
      simp
    rw [isSame, towardZero_of_nonneg size, whole]
    rfl

end Binary64

end IssueTracker
