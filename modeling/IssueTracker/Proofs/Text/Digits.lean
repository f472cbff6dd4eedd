import Mathlib.Algebra.Group.Int.Defs
import Mathlib.Algebra.Group.Nat.Defs
import IssueTracker.Text.Numeral

/-!
# The numbers that digits write

The value of digits is below the power of ten of their number, and the decimal digits of a number
write it.
-/

namespace IssueTracker.Text

/-- A decimal digit of any script is below ten. -/
theorem digitValue_lt (c : Char) : (digitValue? c).getD 0 < 10 := by
  rw [digitValue?]
  cases found : digitZeros.find? (fun first => first ≤ c.toNat && c.toNat < first + 10) with
  | none => simp
  | some first =>
    have inside := List.find?_some found
    simp only [Bool.and_eq_true, decide_eq_true_eq] at inside
    simp only [Option.map_some, Option.getD_some]
    omega

/-- The value of digits after a number that comes before them. -/
theorem foldl_digits (ds : List Char) (acc : Nat) :
    ds.foldl (fun acc c => 10 * acc + (digitValue? c).getD 0) acc =
      acc * 10 ^ ds.length + digitsValue ds := by
  induction ds generalizing acc with
  | nil => simp [digitsValue]
  | cons d ds ih =>
    rw [digitsValue, List.foldl_cons, List.foldl_cons, ih, ih (10 * 0 + _), List.length_cons,
      Nat.pow_succ]
    simp only [Nat.mul_zero, Nat.zero_add]
    rw [Nat.add_mul, Nat.add_assoc, Nat.mul_comm 10 acc, Nat.mul_assoc, Nat.mul_comm 10]

theorem digitsValue_append (ds es : List Char) :
    digitsValue (ds ++ es) = digitsValue ds * 10 ^ es.length + digitsValue es := by
  rw [digitsValue, List.foldl_append, foldl_digits]
  rfl

theorem digitsValue_singleton (c : Char) : digitsValue [c] = (digitValue? c).getD 0 := by
  simp [digitsValue]

theorem digitsValue_lt (ds : List Char) : digitsValue ds < 10 ^ ds.length := by
  induction ds with
  | nil => simp [digitsValue]
  | cons d ds ih =>
    have first := digitValue_lt d
    have split : digitsValue (d :: ds) = (digitValue? d).getD 0 * 10 ^ ds.length + digitsValue ds := by
      rw [← List.singleton_append, digitsValue_append, digitsValue_singleton]
    have scaled : (digitValue? d).getD 0 * 10 ^ ds.length ≤ 9 * 10 ^ ds.length :=
      Nat.mul_le_mul_right _ (by omega)
    rw [split, List.length_cons, Nat.pow_succ]
    omega

/-- A numeral that may be read writes a number of so many digits. -/
theorem readNumeral_lt {ds : List Char} {n : Nat} (reads : readNumeral ds = .ok n) :
    n < 10 ^ numeralLimit := by
  rw [readNumeral] at reads
  split at reads
  · cases reads
  · rename_i short
    cases reads
    exact Nat.lt_of_lt_of_le (digitsValue_lt ds)
      (Nat.pow_le_pow_right (by decide) (Nat.le_of_not_lt short))

/-- A whole number that a text writes has no more digits than a numeral may have. -/
theorem natAbs_wholeNumber? {text : List Char} {n : Int} (writes : wholeNumber? text = some n) :
    n.natAbs < 10 ^ numeralLimit := by
  simp only [wholeNumber?] at writes
  split at writes
  · cases writes
  · split at writes
    · cases writes
    · rename_i reads
      have short := readNumeral_lt reads
      cases writes
      split <;> simpa using short

/-- The ASCII digits count for what they show. -/
theorem digitValue?_digitChar {n : Nat} (single : n < 10) : digitValue? (Nat.digitChar n) = some n := by
  have all : ∀ n < 10, digitValue? (Nat.digitChar n) = some n := by decide
  exact all n single

theorem isDecimal_digitChar {n : Nat} (single : n < 10) : isDecimal (Nat.digitChar n) := by
  simp [isDecimal, digitValue?_digitChar single]

/-- The digits of a number write it. -/
theorem digitsValue_toDigits (n : Nat) : digitsValue (Nat.toDigits 10 n) = n := by
  induction n using Nat.strongRecOn with
  | ind n ih =>
    by_cases single : n < 10
    · rw [Nat.toDigits_of_lt_base single, digitsValue_singleton, digitValue?_digitChar single]
      rfl
    · have last : n % 10 < 10 := Nat.mod_lt n (by decide)
      rw [Nat.toDigits_of_base_le (by decide) (Nat.le_of_not_lt single), digitsValue_append,
        ih (n / 10) (by omega), digitsValue_singleton, digitValue?_digitChar last]
      simp only [List.length_singleton, Nat.pow_one, Option.getD_some]
      omega

/-- The digits of a number are ASCII digits. -/
theorem exists_digit_of_mem_toDigits {n : Nat} {c : Char} (member : c ∈ Nat.toDigits 10 n) :
    ∃ k < 10, c = Nat.digitChar k := by
  induction n using Nat.strongRecOn with
  | ind n ih =>
    by_cases single : n < 10
    · rw [Nat.toDigits_of_lt_base single, List.mem_singleton] at member
      exact ⟨n, single, member⟩
    · rw [Nat.toDigits_of_base_le (by decide) (Nat.le_of_not_lt single), List.mem_append,
        List.mem_singleton] at member
      rcases member with early | last
      · exact ih (n / 10) (by omega) early
      · exact ⟨n % 10, Nat.mod_lt n (by decide), last⟩

theorem all_isDecimal_toDigits (n : Nat) : ∀ c ∈ Nat.toDigits 10 n, isDecimal c := by
  intro c member
  obtain ⟨k, single, rfl⟩ := exists_digit_of_mem_toDigits member
  exact isDecimal_digitChar single

theorem getLast?_ne_lineEnd {ds : List Char} (decimal : ∀ c ∈ ds, isDecimal c) :
    ds.getLast? ≠ some '\n' := fun last => by
  have isDigit := decimal _ (List.mem_of_getLast? last)
  revert isDigit
  decide

/-- A number of so many digits is read back from its digits. -/
theorem readNumeral_toDigits {n : Nat} (short : n < 10 ^ numeralLimit) :
    readNumeral (Nat.toDigits 10 n) = .ok n := by
  have length : (Nat.toDigits 10 n).length ≤ numeralLimit :=
    (Nat.length_toDigits_le_iff (by decide) (by decide)).mpr short
  rw [readNumeral, if_neg (Nat.not_lt.mpr length), digitsValue_toDigits]

end IssueTracker.Text
