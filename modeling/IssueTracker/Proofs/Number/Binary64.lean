import IssueTracker.Number.Binary64
import IssueTracker.Proofs.Text.Digits

/-!
# The size of floating-point numbers

The whole part of a number that was read from a decimal has no more digits than a numeral may have
(`Binary64.natAbs_truncate_ofDecimal`).
-/

namespace IssueTracker.Binary64

theorem roundHalfEven_le (num den : Nat) : roundHalfEven num den ≤ num / den + 1 := by
  simp only [roundHalfEven]
  split <;> omega

/-- The whole part of `mantissa * 2 ^ exponent`. -/
def wholeSize (mantissa : Nat) (exponent : Int) : Nat :=
  mantissa * 2 ^ exponent.toNat / 2 ^ (-exponent).toNat

/-- A mantissa that was rounded from a fraction at an exponent adds at most one unit of it. -/
theorem wholeSize_roundHalfEven (num den : Nat) (exponent : Int) :
    wholeSize (roundHalfEven (scaleDown num den exponent).1 (scaleDown num den exponent).2) exponent ≤
      num / den + 2 ^ exponent.toNat := by
  have rounded := roundHalfEven_le (scaleDown num den exponent).1 (scaleDown num den exponent).2
  generalize roundHalfEven _ _ = mantissa at rounded
  simp only [scaleDown, Nat.pow_eq] at rounded
  rw [wholeSize]
  rcases Int.le_total 0 exponent with up | down
  · have none : (-exponent).toNat = 0 := by omega
    rw [none, Nat.pow_zero, Nat.mul_one, ← Nat.div_div_eq_div_mul] at rounded
    rw [none, Nat.pow_zero, Nat.div_one]
    calc mantissa * 2 ^ exponent.toNat
        ≤ (num / den / 2 ^ exponent.toNat + 1) * 2 ^ exponent.toNat := Nat.mul_le_mul_right _ rounded
      _ = num / den / 2 ^ exponent.toNat * 2 ^ exponent.toNat + 2 ^ exponent.toNat := by
        rw [Nat.add_mul, Nat.one_mul]
      _ ≤ num / den + 2 ^ exponent.toNat := Nat.add_le_add_right (Nat.div_mul_le_self _ _) _
  · have none : exponent.toNat = 0 := by omega
    rw [none, Nat.pow_zero, Nat.mul_one] at rounded
    rw [none, Nat.pow_zero, Nat.mul_one]
    have unit : 0 < 2 ^ (-exponent).toNat := Nat.two_pow_pos _
    calc mantissa / 2 ^ (-exponent).toNat
        ≤ (num * 2 ^ (-exponent).toNat / den + 2 ^ (-exponent).toNat) / 2 ^ (-exponent).toNat :=
          Nat.div_le_div_right (by omega)
      _ = num * 2 ^ (-exponent).toNat / den / 2 ^ (-exponent).toNat + 1 := by
        rw [Nat.add_div_right _ unit]
      _ = num / den + 1 := by
        rw [Nat.div_div_eq_div_mul, Nat.mul_div_mul_right _ _ unit]

theorem natAbs_truncate_finite {negative : Bool} {mantissa : Nat} {exponent n : Int}
    (whole : (finite negative mantissa exponent).truncate? = some n) :
    n.natAbs = wholeSize mantissa exponent := by
  simp only [truncate?, Option.some.injEq] at whole
  rw [← whole]
  split
  · rw [Int.natAbs_neg]
    rfl
  · rfl

/-- The greatest power of two that a number can be a multiple of, and 52 more. -/
def topPower : Nat := maxExponent.toNat + 52

theorem two_pow_toNat_le {exponent : Int} (small : exponent ≤ maxExponent) :
    2 ^ exponent.toNat ≤ 2 ^ maxExponent.toNat :=
  Nat.pow_le_pow_right (by decide) (by omega)

/-- The whole part of the number nearest to a fraction. -/
theorem natAbs_truncate_ofFraction {negative : Bool} {num den : Nat} {n : Int}
    (whole : (ofFraction negative num den).truncate? = some n) :
    n.natAbs ≤ num / den + 2 ^ topPower := by
  rw [ofFraction] at whole
  split at whole
  · rw [natAbs_truncate_finite whole, wholeSize, Nat.zero_mul, Nat.zero_div]
    exact Nat.zero_le _
  · dsimp only at whole
    generalize (if _ < Nat.pow 2 53 then _ else _ : Int) = exponent at whole
    split at whole
    · -- the mantissa was rounded up to the next power of two
      split at whole
      · cases whole
      · rename_i small
        have unit := two_pow_toNat_le (Int.not_lt.mp small)
        rw [natAbs_truncate_finite whole, wholeSize]
        calc 2 ^ 52 * 2 ^ (exponent + 1).toNat / 2 ^ (-(exponent + 1)).toNat
            ≤ 2 ^ 52 * 2 ^ (exponent + 1).toNat := Nat.div_le_self _ _
          _ ≤ 2 ^ 52 * 2 ^ maxExponent.toNat := Nat.mul_le_mul_left _ unit
          _ = 2 ^ topPower := by rw [topPower, Nat.pow_add, Nat.mul_comm]
          _ ≤ num / den + 2 ^ topPower := Nat.le_add_left _ _
    · split at whole
      · cases whole
      · rename_i small
        have unit := two_pow_toNat_le (Int.not_lt.mp small)
        have rounded := wholeSize_roundHalfEven num den exponent
        have room : 2 ^ maxExponent.toNat ≤ 2 ^ topPower :=
          Nat.pow_le_pow_right (by decide) (Nat.le_add_right _ _)
        rw [natAbs_truncate_finite whole]
        exact Nat.le_trans rounded (Nat.add_le_add_left (Nat.le_trans unit room) _)

/-- Digits with an exponent write a number of so many places. -/
theorem digits_scaled_le {digits : Nat} {exponent : Int} {places : Nat}
    (few : ((Nat.toDigits 10 digits).length : Int) + exponent ≤ places) :
    digits * Nat.pow 10 exponent.toNat / Nat.pow 10 (-exponent).toNat ≤ 10 ^ places := by
  have length : digits ≤ 10 ^ (Nat.toDigits 10 digits).length :=
    Nat.le_of_lt ((Nat.length_toDigits_le_iff (by decide) Nat.length_toDigits_pos).mp (Nat.le_refl _))
  generalize (Nat.toDigits 10 digits).length = size at few length
  refine Nat.div_le_of_le_mul ?_
  calc digits * 10 ^ exponent.toNat ≤ 10 ^ size * 10 ^ exponent.toNat := Nat.mul_le_mul_right _ length
    _ = 10 ^ (size + exponent.toNat) := by rw [Nat.pow_add]
    _ ≤ 10 ^ ((-exponent).toNat + places) := Nat.pow_le_pow_right (by decide) (by omega)
    _ = 10 ^ (-exponent).toNat * 10 ^ places := by rw [Nat.pow_add]

/-- The whole part of a number that was read has no more digits than a numeral may have. -/
theorem natAbs_truncate_ofDecimal {negative : Bool} {digits : Nat} {exponent n : Int}
    (whole : (ofDecimal negative digits exponent).truncate? = some n) :
    n.natAbs < 10 ^ Text.numeralLimit := by
  rw [ofDecimal] at whole
  split at whole
  · rw [natAbs_truncate_finite whole, wholeSize, Nat.zero_mul, Nat.zero_div]
    exact Nat.pow_pos (by decide)
  · split at whole
    · cases whole
    · rename_i few
      have quotient := digits_scaled_le (Int.le_trans (Int.not_lt.mp few) (by decide : 310 ≤ (topPower : Int)))
      have rounding : 2 ^ topPower ≤ 10 ^ topPower := Nat.pow_le_pow_left (by decide) _
      calc n.natAbs ≤ _ := natAbs_truncate_ofFraction whole
        _ ≤ 10 ^ topPower + 10 ^ topPower := Nat.add_le_add quotient rounding
        _ < 10 ^ topPower * 10 := by
          have positive : 0 < 10 ^ topPower := Nat.pow_pos (by decide)
          omega
        _ = 10 ^ (topPower + 1) := by rw [Nat.pow_succ]
        _ ≤ 10 ^ Text.numeralLimit := Nat.pow_le_pow_right (by decide) (by decide)

end IssueTracker.Binary64
