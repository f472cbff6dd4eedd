import IssueTracker.Query.Match
import IssueTracker.Proofs.Calendar.Date
import IssueTracker.Proofs.Calendar.Moment

/-!
# The meaning of an age

An age is compared with the time that has passed since a moment, to the microsecond, and an equal age means
the day that lies so many days back (`Comparison.Asks`).  Where the calendar does not reach back that far, its
first moment takes the place of what would lie before it (`Comparison.AsksBeforeCalendar`,
`Bound.holds_age`).
-/

namespace IssueTracker

/-! ## Moments so many days apart -/

namespace TimeOfDay

theorem micros_lt (t : TimeOfDay) : t.micros < microsPerDay := by
  obtain ⟨hour, minute, second, micro⟩ := t.valid
  rw [micros, microsPerDay]
  omega

theorem micros_injective : Function.Injective micros := by
  rintro ⟨hour, minute, second, micro, valid⟩ ⟨hour', minute', second', micro', valid'⟩ same
  simp only [micros] at same
  obtain ⟨rfl, rfl, rfl, rfl⟩ : hour = hour' ∧ minute = minute' ∧ second = second' ∧ micro = micro' := by
    omega
  rfl

end TimeOfDay

namespace Moment

variable {a b now : Moment} {days : Nat}

/-- Clocks that are whole days apart show the same time. -/
theorem localMicros_add_eq_iff :
    a.localMicros + days * microsPerDay = b.localMicros ↔
      a.date.ordinal + days = b.date.ordinal ∧ a.time = b.time := by
  have timeA := a.time.micros_lt
  have timeB := b.time.micros_lt
  rw [localMicros, localMicros]
  constructor
  · intro apart
    rw [microsPerDay] at *
    exact ⟨by omega, TimeOfDay.micros_injective (by omega)⟩
  · rintro ⟨ordinal, time⟩
    rw [← ordinal, time, Nat.add_mul]
    omega

theorem instant_injective (naiveA : a.isNaive) (naiveB : b.isNaive) (same : a.instant = b.instant) : a = b := by
  have offsets : a.offset = b.offset := (offset_eq_none naiveA).trans (offset_eq_none naiveB).symm
  rw [instant_eq naiveA, instant_eq naiveB, Int.natCast_inj] at same
  have apart : a.localMicros + 0 * microsPerDay = b.localMicros := by simpa using same
  obtain ⟨number, time⟩ := localMicros_add_eq_iff.mp apart
  have date : a.date = b.date := Date.ordinal_injective number
  cases a
  cases b
  simp_all

/-- No moment lies before the first one of the calendar. -/
theorem earliest_le (naive : a.isNaive) : earliest.instant ≤ a.instant := by
  have number := Nat.mul_le_mul_right microsPerDay a.date.ordinal_pos
  have start : earliest.localMicros = 1 * microsPerDay := rfl
  rw [instant_eq naive, instant_eq (show earliest.isNaive from rfl), start, localMicros]
  omega

/-- A moment without an offset is so many days before another. -/
def Precedes (earlier : Moment) (days : Nat) (now : Moment) : Prop :=
  earlier.isNaive ∧ earlier.instant + days * microsPerDay = now.instant

theorem minusDays?_eq_some_iff {earlier : Moment} (naive : now.isNaive) :
    now.minusDays? days = some earlier ↔ earlier.Precedes days now := by
  constructor
  · intro found
    rw [minusDays?, Option.map_eq_some_iff] at found
    obtain ⟨date, back, rfl⟩ := found
    have number : date.ordinal + days = now.date.ordinal := Date.minusDays?_eq_some_iff.mp back
    have apart := (localMicros_add_eq_iff (a := { now with date }) (b := now)).mpr ⟨number, rfl⟩
    refine ⟨naive, ?_⟩
    rw [instant_eq naive, instant_eq (show Moment.isNaive { now with date } from naive), ← apart]
    push_cast
    rfl
  · rintro ⟨earlierNaive, apart⟩
    rw [instant_eq naive, instant_eq earlierNaive] at apart
    obtain ⟨number, time⟩ := localMicros_add_eq_iff.mp (show earlier.localMicros + days * microsPerDay =
      now.localMicros by exact_mod_cast apart)
    rw [minusDays?, Date.minusDays?_eq_some_iff.mpr number, Option.map_some, ← time, offset_eq_none naive,
      ← offset_eq_none earlierNaive]

end Moment

/-! ## Ages -/

namespace Comparison

variable {t now earlier boundary : Moment} {days : Nat}

/-- What a comparison with an age asks of a moment, when there is a moment so many days before the present. -/
def Asks (t now : Moment) (days : Nat) (earlier : Moment) : Comparison → Prop
  | lt => now.instant - t.instant < days * microsPerDay
  | le => now.instant - t.instant ≤ days * microsPerDay
  | gt => days * microsPerDay < now.instant - t.instant
  | ge => days * microsPerDay ≤ now.instant - t.instant
  | eq => t.date = earlier.date

/-- What a comparison with an age asks of a moment, when the age reaches back beyond the calendar. -/
def AsksBeforeCalendar (t : Moment) : Comparison → Prop
  | lt => Moment.earliest.instant < t.instant
  | le => True
  | gt => False
  | ge => t = .earliest
  | eq => t.date = .first

/-- What a comparison with an age asks of a moment and the one that the age reaches back to. -/
def AsksSince (boundary t : Moment) : Comparison → Prop
  | lt => boundary.instant < t.instant
  | le => boundary.instant ≤ t.instant
  | gt => t.instant < boundary.instant
  | ge => t.instant ≤ boundary.instant
  | eq => t.date = boundary.date

theorem holds_ofAges_iff (comparison : Comparison) (exact : comparison ≠ .eq) :
    comparison.ofAges.holds (compare t.instant boundary.instant) = true ↔ comparison.AsksSince boundary t := by
  have less : compare t.instant boundary.instant = .lt ↔ t.instant < boundary.instant := compare_lt_iff_lt
  have more : compare t.instant boundary.instant = .gt ↔ boundary.instant < t.instant := compare_gt_iff_gt
  cases comparison with
  | ge => rw [ofAges, holds, bne_iff_ne, Ne, more, Int.not_lt, AsksSince]
  | le => rw [ofAges, holds, bne_iff_ne, Ne, less, Int.not_lt, AsksSince]
  | gt => rw [ofAges, holds, beq_iff_eq, less, AsksSince]
  | lt => rw [ofAges, holds, beq_iff_eq, more, AsksSince]
  | eq => exact absurd rfl exact

/-- A moment is younger than an age when it is later than the moment that the age reaches back to. -/
theorem asksSince_iff (precedes : earlier.Precedes days now) (comparison : Comparison) :
    comparison.AsksSince earlier t ↔ comparison.Asks t now days earlier := by
  obtain ⟨_, apart⟩ := precedes
  cases comparison <;> simp only [AsksSince, Asks] <;> omega

theorem asksSince_earliest_iff (naive : t.isNaive) (comparison : Comparison) :
    comparison.AsksSince .earliest t ↔ comparison.AsksBeforeCalendar t := by
  have least := Moment.earliest_le naive
  cases comparison with
  | ge =>
    refine ⟨fun most => Moment.instant_injective naive rfl (le_antisymm most least), ?_⟩
    rintro rfl
    exact le_refl _
  | le => exact iff_true_intro least
  | gt => exact iff_false_intro (not_lt.mpr least)
  | lt => exact Iff.rfl
  | eq => exact Iff.rfl

end Comparison

namespace Bound

variable {token : String} {digits : List Char} {unit : AgeUnit} {t now boundary : Moment}

/-- An age is compared with the moment that lies so many days back, if the calendar has it. -/
theorem boundary_age (parts : ageParts? token.toList = some (digits, unit))
    (short : digits.length ≤ Text.numeralLimit) (comparison : Comparison) (now : Moment) :
    Bound.boundary ⟨comparison, .age token⟩ now =
      .ok ((now.minusDays? (Text.digitsValue digits * unit.days)).getD .earliest) := by
  have numeral : Text.readNumeral digits = .ok (Text.digitsValue digits) := if_neg (Nat.not_lt.mpr short)
  simp only [Bound.boundary, ageDays, parts, numeral]
  by_cases few : Text.digitsValue digits * unit.days ≤ maxDays
  · rw [if_pos few]
  · -- More days than can be reckoned with are more than the calendar has.
    have last : now.date.ordinal ≤ maxDays :=
      Nat.le_trans now.date.ordinal_le_last (by decide)
    have none : now.minusDays? (Text.digitsValue digits * unit.days) = none := by
      rw [Moment.minusDays?, Date.minusDays?, if_neg (by omega), Option.map_none]
    rw [if_neg few, none]
    rfl

/-- An age is compared as the moment that it reaches back to, the other way round. -/
theorem holds_of_boundary {comparison : Comparison} (naive : t.isNaive) (boundaryNaive : boundary.isNaive)
    (reaches : Bound.boundary ⟨comparison, .age token⟩ now = .ok boundary) :
    ∃ result, Bound.holds ⟨comparison, .age token⟩ (some t) now = .ok result ∧
      (result = true ↔ comparison.AsksSince boundary t) := by
  have compared : t.compare boundary = .ok (compare t.instant boundary.instant) :=
    if_pos (naive.trans boundaryNaive.symm)
  by_cases day : comparison = .eq
  · subst day
    refine ⟨t.date == boundary.date, ?_, beq_iff_eq⟩
    simp only [Bound.holds, reaches]
    rfl
  · refine ⟨comparison.ofAges.holds (compare t.instant boundary.instant), ?_, comparison.holds_ofAges_iff day⟩
    cases comparison with
    | eq => exact absurd rfl day
    | _ => simp only [Bound.holds, reaches, compared, bind, Except.bind]

/-- A moment is asked for its age to the microsecond, or for its day.  An age that reaches back beyond the
    calendar is no error: the first moment takes its place.  A moment that is missing satisfies no bound. -/
theorem holds_age (parts : ageParts? token.toList = some (digits, unit))
    (short : digits.length ≤ Text.numeralLimit) (nowNaive : now.isNaive) (naive : t.isNaive) :
    (∀ comparison, ∃ result, Bound.holds ⟨comparison, .age token⟩ (some t) now = .ok result ∧
      (∀ earlier : Moment, earlier.Precedes (Text.digitsValue digits * unit.days) now →
        (result = true ↔ comparison.Asks t now (Text.digitsValue digits * unit.days) earlier)) ∧
      ((∀ earlier : Moment, ¬earlier.Precedes (Text.digitsValue digits * unit.days) now) →
        (result = true ↔ comparison.AsksBeforeCalendar t))) ∧
      ∀ (bound : Bound) (now : Moment), bound.holds none now = .ok false := by
  refine ⟨fun comparison => ?_, fun _ _ => rfl⟩
  have reaches := boundary_age parts short comparison now
  obtain ⟨days, isDays⟩ : ∃ days, days = Text.digitsValue digits * unit.days := ⟨_, rfl⟩
  rw [← isDays] at reaches ⊢
  cases back : now.minusDays? days with
  | some earlier =>
    have precedes := (Moment.minusDays?_eq_some_iff nowNaive).mp back
    rw [back, Option.getD_some] at reaches
    obtain ⟨result, run, meaning⟩ := holds_of_boundary naive precedes.1 reaches
    refine ⟨result, run, fun other precedes' => ?_, fun none => absurd precedes (none earlier)⟩
    have same := (Moment.minusDays?_eq_some_iff nowNaive).mpr precedes'
    obtain rfl : earlier = other := Option.some.inj (back.symm.trans same)
    exact meaning.trans (Comparison.asksSince_iff precedes comparison)
  | none =>
    rw [back, Option.getD_none] at reaches
    obtain ⟨result, run, meaning⟩ := holds_of_boundary naive (show Moment.earliest.isNaive from rfl) reaches
    refine ⟨result, run, fun earlier precedes => ?_, fun _ => ?_⟩
    · have some := (Moment.minusDays?_eq_some_iff nowNaive).mpr precedes
      rw [back] at some
      cases some
    · exact meaning.trans (Comparison.asksSince_earliest_iff naive comparison)

/-- Noon of the first of March of a leap year. -/
private def march : Moment := ⟨⟨2024, 3, 1, by decide⟩, ⟨12, 0, 0, 0, by decide⟩, none⟩

/-- Noon of the twenty-third of February of the same year. -/
private def february : Moment := ⟨⟨2024, 2, 23, by decide⟩, ⟨12, 0, 0, 0, by decide⟩, none⟩

/-- A week lies between the two, so the earlier one is not older than a week. -/
theorem holds_age_leap :
    ageParts? "1w".toList = some (['1'], .week) ∧ ['1'].length ≤ Text.numeralLimit ∧ march.isNaive ∧
      february.isNaive ∧ Bound.holds ⟨.le, .age "1w"⟩ (some february) march = .ok true := by
  have parts : ageParts? "1w".toList = some (['1'], .week) := by decide
  have short : ['1'].length ≤ Text.numeralLimit := by decide
  have naive : march.isNaive ∧ february.isNaive := ⟨rfl, rfl⟩
  obtain ⟨result, run, reached, _⟩ := (holds_age parts short naive.1 naive.2).1 .le
  have precedes : february.Precedes (Text.digitsValue ['1'] * AgeUnit.week.days) march := ⟨rfl, by decide⟩
  have asked : Comparison.le.Asks february march (Text.digitsValue ['1'] * AgeUnit.week.days) february := by
    obtain ⟨_, apart⟩ := precedes
    rw [Comparison.Asks]
    omega
  rw [(reached february precedes).mpr asked] at run
  exact ⟨parts, short, naive.1, naive.2, run⟩

end Bound

end IssueTracker
