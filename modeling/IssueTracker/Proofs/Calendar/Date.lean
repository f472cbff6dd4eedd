import Mathlib.Order.Monotone.Basic
import IssueTracker.Calendar.Date

/-!
# The numbering of days

Years and months follow each other without gaps (`daysBeforeYear_succ`, `daysBeforeMonth_succ`), so days are
numbered in the order of the calendar (`Date.ordinal_lt_iff`), and every number from 1 up to that of the last
day is the number of exactly one (`Date.exists_ofOrdinal?`).  So many days before a day is the day whose number
is so much less, if the calendar reaches back that far (`Date.minusDays?_eq_some_iff`).
-/

namespace IssueTracker

/-! ## Years and months -/

theorem daysBeforeMonth_succ (year : Nat) {month : Nat} (positive : 1 ≤ month) :
    daysBeforeMonth year (month + 1) = daysBeforeMonth year month + daysInMonth year month := by
  obtain ⟨before, rfl⟩ := Nat.exists_eq_add_of_le' positive
  have sum (months : List Nat) (last : Nat) :
      months.foldr (fun earlier days => daysInMonth year earlier + days) last =
        months.foldr (fun earlier days => daysInMonth year earlier + days) 0 + last := by
    induction months with
    | nil => rw [List.foldr_nil, List.foldr_nil, Nat.zero_add]
    | cons month months ih => rw [List.foldr_cons, List.foldr_cons, ih, Nat.add_assoc]
  rw [daysBeforeMonth, daysBeforeMonth, Nat.add_sub_cancel, Nat.add_sub_cancel, List.range'_1_concat,
    List.foldr_append, sum, Nat.add_comm 1]
  rfl

theorem daysBeforeMonth_mono (year : Nat) : Monotone (daysBeforeMonth year) := by
  refine monotone_nat_of_le_succ fun month => ?_
  rcases Nat.eq_zero_or_pos month with rfl | positive
  · exact Nat.le_refl 0
  · rw [daysBeforeMonth_succ year positive]
    omega

theorem isLeap_iff {year : Nat} : isLeap year = true ↔ 4 ∣ year ∧ (¬100 ∣ year ∨ 400 ∣ year) := by
  simp [isLeap, Nat.dvd_iff_mod_eq_zero]

/-- After twelve months the next year starts. -/
theorem daysBeforeYear_succ {year : Nat} (positive : 1 ≤ year) :
    daysBeforeYear (year + 1) = daysBeforeYear year + daysBeforeMonth year 13 := by
  have twelve : daysBeforeMonth year 13 = if isLeap year then 366 else 365 := by
    cases leap : isLeap year <;> simp [daysBeforeMonth, daysInMonth, leap, List.range']
  have hundreds (century : 100 ∣ year) : 4 ∣ year := Nat.dvd_trans (by decide) century
  have cycles (cycle : 400 ∣ year) : 100 ∣ year := Nat.dvd_trans (by decide) cycle
  obtain ⟨before, rfl⟩ := Nat.exists_eq_add_of_le' positive
  have fewer : before / 100 ≤ before / 4 := Nat.div_le_div_left (by decide) (by decide)
  -- A quotient grows by one in the years that its divisor divides.
  rw [twelve, daysBeforeYear, daysBeforeYear, Nat.add_sub_cancel, Nat.add_sub_cancel, Nat.succ_div, Nat.succ_div,
    Nat.succ_div]
  simp only [isLeap_iff]
  by_cases cycle : 400 ∣ before + 1
  · simp only [hundreds (cycles cycle), cycles cycle, cycle, if_true, true_and, or_true]
    omega
  by_cases century : 100 ∣ before + 1
  · simp only [hundreds century, century, cycle, if_true, if_false, true_and, not_true, or_false]
    omega
  by_cases fourth : 4 ∣ before + 1
  · simp only [fourth, century, cycle, if_true, if_false, true_and, not_false_iff, true_or]
    omega
  · simp only [fourth, century, cycle, if_false, false_and]
    omega

theorem daysBeforeYear_mono : Monotone daysBeforeYear := by
  refine monotone_nat_of_le_succ fun year => ?_
  rcases Nat.eq_zero_or_pos year with rfl | positive
  · exact Nat.le_refl 0
  · rw [daysBeforeYear_succ positive]
    omega

namespace Date

/-! ## The number of a day -/

variable {d e : Date}

/-- A day lies in its month. -/
theorem day_bounds (d : Date) :
    daysBeforeMonth d.year d.month < daysBeforeMonth d.year d.month + d.day ∧
      daysBeforeMonth d.year d.month + d.day ≤ daysBeforeMonth d.year (d.month + 1) := by
  obtain ⟨_, _, firstMonth, _, firstDay, lastDay⟩ := d.valid
  rw [daysBeforeMonth_succ d.year firstMonth]
  omega

/-- The number of a day lies in its year. -/
theorem ordinal_bounds (d : Date) :
    daysBeforeYear d.year < d.ordinal ∧ d.ordinal ≤ daysBeforeYear (d.year + 1) := by
  obtain ⟨firstYear, _, _, lastMonth, firstDay, _⟩ := d.valid
  have inMonth := d.day_bounds
  have inYear := daysBeforeMonth_mono d.year (show d.month + 1 ≤ 13 by omega)
  rw [daysBeforeYear_succ firstYear, ordinal]
  omega

theorem ordinal_pos (d : Date) : 0 < d.ordinal := Nat.zero_lt_of_lt d.ordinal_bounds.1

theorem ordinal_le_last (d : Date) : d.ordinal ≤ daysBeforeYear (maxYear + 1) :=
  Nat.le_trans d.ordinal_bounds.2 (daysBeforeYear_mono (Nat.succ_le_succ d.valid.2.1))

/-- A day comes before another in the calendar. -/
def Before (d e : Date) : Prop :=
  d.year < e.year ∨ d.year = e.year ∧ (d.month < e.month ∨ d.month = e.month ∧ d.day < e.day)

theorem before_or_eq_or_before (d e : Date) : d.Before e ∨ d = e ∨ e.Before d := by
  by_cases same : d.year = e.year ∧ d.month = e.month ∧ d.day = e.day
  · obtain ⟨year, month, day⟩ := same
    refine Or.inr (Or.inl ?_)
    cases d
    cases e
    simp_all
  · rw [Before, Before]
    omega

theorem ordinal_lt (before : d.Before e) : d.ordinal < e.ordinal := by
  rcases before with year | ⟨year, month | ⟨month, day⟩⟩
  · have apart : daysBeforeYear (d.year + 1) ≤ daysBeforeYear e.year := daysBeforeYear_mono year
    have inD := d.ordinal_bounds
    have inE := e.ordinal_bounds
    omega
  · have apart : daysBeforeMonth e.year (d.month + 1) ≤ daysBeforeMonth e.year e.month :=
      daysBeforeMonth_mono e.year month
    have inD := d.day_bounds
    have inE := e.day_bounds
    rw [year] at inD
    rw [ordinal, ordinal, year]
    omega
  · rw [ordinal, ordinal, year, month]
    omega

/-- Days are numbered in the order of the calendar. -/
theorem ordinal_lt_iff : d.ordinal < e.ordinal ↔ d.Before e := by
  refine ⟨fun less => ?_, ordinal_lt⟩
  rcases before_or_eq_or_before d e with before | rfl | after
  · exact before
  · exact absurd less (Nat.lt_irrefl _)
  · exact absurd (ordinal_lt after) (Nat.lt_asymm less)

/-- No two days have the same number. -/
theorem ordinal_injective : Function.Injective ordinal := by
  intro d e same
  rcases before_or_eq_or_before d e with before | equal | after
  · exact absurd same (Nat.ne_of_lt (ordinal_lt before))
  · exact equal
  · exact absurd same.symm (Nat.ne_of_lt (ordinal_lt after))

/-! ## The day with a number -/

/-- Four hundred years have 146097 days, and the days before a year are close to that share. -/
theorem daysBeforeYear_share (before : Nat) :
    400 * daysBeforeYear (before + 1) < 146097 * (before + 1) ∧
      146097 * before < 400 * daysBeforeYear (before + 1) + 2 * 400 := by
  rw [daysBeforeYear, Nat.add_sub_cancel]
  omega

/-- The guess is off by one year at most. -/
theorem yearOfOrdinal_bounds {n : Nat} (positive : 0 < n) :
    daysBeforeYear (yearOfOrdinal n) < n ∧ n ≤ daysBeforeYear (yearOfOrdinal n + 1) := by
  obtain ⟨guess, isGuess⟩ : ∃ guess, guess = 400 * n / 146097 := ⟨_, rfl⟩
  rw [yearOfOrdinal, ← isGuess]
  split
  · rename_i early
    rcases guess with _ | guess
    · have start : daysBeforeYear (0 + 1) = 0 := rfl
      omega
    · have share := daysBeforeYear_share guess
      rw [Nat.add_sub_cancel]
      omega
  · split
    · have share := daysBeforeYear_share (guess + 1 + 1)
      omega
    · omega

/-- A day of the year falls in one of the months that are gone through. -/
theorem monthAndDay_spec (year count first n : Nat) (firstMonth : 1 ≤ first) (positive : 0 < n)
    (inside : daysBeforeMonth year first + n ≤ daysBeforeMonth year (first + count)) :
    ∃ month day, monthAndDay year (List.range' first count) n = (month, day) ∧ first ≤ month ∧
      month < first + count ∧ 1 ≤ day ∧ day ≤ daysInMonth year month ∧
      daysBeforeMonth year month + day = daysBeforeMonth year first + n := by
  induction count generalizing first n with
  | zero =>
    rw [Nat.add_zero] at inside
    omega
  | succ count ih =>
    rw [List.range'_succ, monthAndDay]
    by_cases here : n ≤ daysInMonth year first
    · rw [if_pos here]
      exact ⟨first, n, rfl, Nat.le_refl first, by omega, positive, here, rfl⟩
    · have next := daysBeforeMonth_succ year firstMonth
      obtain ⟨month, day, found, after, before, firstDay, lastDay, number⟩ :=
        ih (first + 1) (n - daysInMonth year first) (by omega) (by omega)
          (by rw [Nat.add_assoc, Nat.add_comm 1]; omega)
      rw [if_neg here]
      exact ⟨month, day, found, by omega, by omega, firstDay, lastDay, by omega⟩

/-- Every number up to that of the last day is the number of a day. -/
theorem exists_ofOrdinal? {n : Nat} (positive : 0 < n) (inside : n ≤ daysBeforeYear (maxYear + 1)) :
    ∃ d, ofOrdinal? n = some d ∧ d.ordinal = n := by
  obtain ⟨after, before⟩ := yearOfOrdinal_bounds positive
  obtain ⟨year, isYear⟩ : ∃ year, year = yearOfOrdinal n := ⟨_, rfl⟩
  rw [← isYear] at after before
  have firstYear : 1 ≤ year := by
    by_contra none
    have := daysBeforeYear_mono (show year + 1 ≤ 1 by omega)
    have start : daysBeforeYear 1 = 0 := rfl
    omega
  have lastYear : year ≤ maxYear := by
    by_contra late
    have := daysBeforeYear_mono (show maxYear + 1 ≤ year by omega)
    omega
  rw [daysBeforeYear_succ firstYear] at before
  have start : daysBeforeMonth year 1 = 0 := rfl
  obtain ⟨month, day, found, firstMonth, lastMonth, firstDay, lastDay, number⟩ :=
    monthAndDay_spec year 12 1 (n - daysBeforeYear year) (Nat.le_refl 1) (by omega)
      (by rw [start, show 1 + 12 = 13 from rfl]; omega)
  have valid : IsDate year month day := ⟨firstYear, lastYear, firstMonth, by omega, firstDay, lastDay⟩
  refine ⟨⟨year, month, day, valid⟩, ?_, ?_⟩
  · rw [ofOrdinal?, ← isYear]
    simp only [found]
    exact dif_pos valid
  · simp only [ordinal]
    omega

/-- So many days before a day is the day whose number is so much less. -/
theorem minusDays?_eq_some_iff {days : Nat} {earlier : Date} :
    d.minusDays? days = some earlier ↔ earlier.ordinal + days = d.ordinal := by
  have reached (fewer : days < d.ordinal) :
      ∃ e, d.minusDays? days = some e ∧ e.ordinal + days = d.ordinal := by
    have last := d.ordinal_le_last
    obtain ⟨e, found, number⟩ := exists_ofOrdinal? (n := d.ordinal - days) (by omega) (by omega)
    exact ⟨e, by rw [minusDays?, if_pos fewer, found], by omega⟩
  constructor
  · intro found
    have fewer : days < d.ordinal := by
      by_contra many
      rw [minusDays?, if_neg many] at found
      cases found
    obtain ⟨e, found', number⟩ := reached fewer
    obtain rfl : e = earlier := Option.some.inj (found'.symm.trans found)
    exact number
  · intro number
    obtain ⟨e, found, number'⟩ := reached (by have := earlier.ordinal_pos; omega)
    rw [found, ordinal_injective (show e.ordinal = earlier.ordinal by omega)]

end Date

end IssueTracker
