import Mathlib.Data.List.TakeWhile
import IssueTracker.Proofs.Calendar.Iso

/-!
# Reading back a moment

A moment is read back from its text to the second as the start of its second, with its offset unless
that is less than a second (`Moment.ofIso_isoSeconds_eq`).  Without an offset this keeps the order of
moments (`Moment.wholeSecond_mono`).
-/

namespace IssueTracker

namespace Iso

/-- The components of a time are read back from its text to the minute. -/
theorem timeFields?_minuteChars (closed : Bool) (t : TimeOfDay) :
    timeFields? closed t.minuteChars =
      some { hour := t.hour, minute := t.minute, extra := !closed } := by
  obtain ⟨hour, minute, second, micro, hourBound, minuteBound, secondBound, _⟩ := t
  have readHour := takeDigits_two (by omega : hour < 100) (':' :: Text.fixedDigits 2 minute)
  have readMinute := takeDigits_two (by omega : minute < 100) []
  rw [List.append_nil] at readMinute
  rw [timeFields?, TimeOfDay.minuteChars, readHour]
  simp [fixedDigits_two] at readMinute ⊢
  simp [readMinute]

/-- The components of a time are read back from its text to the microsecond. -/
theorem timeFields?_microChars (t : TimeOfDay) :
    timeFields? true (t.secondChars ++ '.' :: Text.fixedDigits 6 t.micro) =
      some { hour := t.hour, minute := t.minute, second := t.second, micro := t.micro } := by
  obtain ⟨hour, minute, second, micro, hourBound, minuteBound, secondBound, microBound⟩ := t
  have readFraction (fields : TimeFields) : fraction? fields true (Text.fixedDigits 6 micro) =
      some { fields with micro := micro, extra := false } := by
    have digits := takeDigits_fixedDigits 6 micro 0 []
    rw [List.append_nil, Nat.zero_mul, Nat.zero_add,
      Nat.mod_eq_of_lt (show micro < 10 ^ 6 from microBound)] at digits
    simp [fraction?, Text.length_fixedDigits, digits]
  have readHour := takeDigits_two (by omega : hour < 100)
    (':' :: (Text.fixedDigits 2 minute ++ ':' :: (Text.fixedDigits 2 second ++
      '.' :: Text.fixedDigits 6 micro)))
  have readMinute := takeDigits_two (by omega : minute < 100)
    (':' :: (Text.fixedDigits 2 second ++ '.' :: Text.fixedDigits 6 micro))
  have readSecond := takeDigits_two (by omega : second < 100) ('.' :: Text.fixedDigits 6 micro)
  have text : TimeOfDay.secondChars ⟨hour, minute, second, micro, hourBound, minuteBound, secondBound,
      microBound⟩ ++ '.' :: Text.fixedDigits 6 micro = Text.fixedDigits 2 hour ++
        ':' :: (Text.fixedDigits 2 minute ++ ':' :: (Text.fixedDigits 2 second ++
          '.' :: Text.fixedDigits 6 micro)) := by
    simp [TimeOfDay.secondChars, TimeOfDay.minuteChars]
  have more : ∃ c more, Text.fixedDigits 6 micro = c :: more := ⟨_, _, rfl⟩
  obtain ⟨c, more, isMore⟩ := more
  rw [timeFields?, text, readHour]
  rw [isMore] at readMinute readSecond readFraction ⊢
  simp only [fixedDigits_two, List.cons_append, List.nil_append] at readMinute readSecond readHour ⊢
  simp [readMinute, readSecond, readFraction]

/-- The components of a time are read back from its text to the second. -/
theorem timeFields?_secondChars (closed : Bool) (t : TimeOfDay) :
    timeFields? closed t.secondChars =
      some { hour := t.hour, minute := t.minute, second := t.second, extra := !closed } := by
  obtain ⟨hour, minute, second, micro, hourBound, minuteBound, secondBound, _⟩ := t
  have readHour := takeDigits_two (by omega : hour < 100)
    (':' :: (Text.fixedDigits 2 minute ++ ':' :: Text.fixedDigits 2 second))
  have readMinute := takeDigits_two (by omega : minute < 100) (':' :: Text.fixedDigits 2 second)
  have readSecond := takeDigits_two (by omega : second < 100) []
  rw [List.append_nil] at readSecond
  have text : TimeOfDay.secondChars ⟨hour, minute, second, micro, hourBound, minuteBound, secondBound, ‹_›⟩ =
      Text.fixedDigits 2 hour ++ ':' :: (Text.fixedDigits 2 minute ++ ':' :: Text.fixedDigits 2 second) := by
    simp [TimeOfDay.secondChars, TimeOfDay.minuteChars]
  rw [timeFields?, text, readHour]
  simp [fixedDigits_two] at readMinute readSecond ⊢
  simp [readMinute, readSecond]

theorem not_startsOffset_secondChars {t : TimeOfDay} {c : Char} (member : c ∈ t.secondChars) :
    startsOffset c = false := by
  have digit {n : Nat} (inside : c ∈ Text.fixedDigits 2 n) : startsOffset c = false := by
    obtain ⟨k, single, rfl⟩ := Text.exists_digit_of_mem_fixedDigits inside
    have all : ∀ k < 10, startsOffset (Text.digitChar k) = false := by decide
    exact all k single
  simp only [TimeOfDay.secondChars, TimeOfDay.minuteChars, List.mem_append, List.mem_cons] at member
  rcases member with (hour | rfl | minute) | rfl | second
  · exact digit hour
  · rfl
  · exact digit minute
  · rfl
  · exact digit second

/-- The components of an offset are read back. -/
theorem exists_timeFields?_isoChars (o : UtcOffset) :
    ∃ (t : TimeOfDay) (chars : List Char), t.micros = o.micros.natAbs ∧
      o.isoChars = (if o.micros < 0 then '-' else '+') :: chars ∧
      timeFields? true chars =
        some { hour := t.hour, minute := t.minute, second := t.second, micro := t.micro } := by
  have valid := o.valid
  rw [microsPerDay] at valid
  let t : TimeOfDay := ⟨o.micros.natAbs / 1000000 / 3600, o.micros.natAbs / 1000000 / 60 % 60,
    o.micros.natAbs / 1000000 % 60, o.micros.natAbs % 1000000, by omega⟩
  have whole : t.micros = o.micros.natAbs := by
    simp only [TimeOfDay.micros, t]
    omega
  -- Seconds are written unless they and the microseconds are zero, microseconds unless they are.
  by_cases micro : t.micro = 0
  · by_cases second : t.second = 0
    · refine ⟨t, t.minuteChars, whole, ?_, ?_⟩
      · simp_all [UtcOffset.isoChars, TimeOfDay.minuteChars, t]
      · rw [timeFields?_minuteChars, second, micro]
        rfl
    · refine ⟨t, t.secondChars, whole, ?_, ?_⟩
      · simp_all [UtcOffset.isoChars, TimeOfDay.secondChars, TimeOfDay.minuteChars, t]
      · rw [timeFields?_secondChars, micro]
        rfl
  · refine ⟨t, t.secondChars ++ '.' :: Text.fixedDigits 6 t.micro, whole, ?_,
      timeFields?_microChars t⟩
    simp_all [UtcOffset.isoChars, TimeOfDay.secondChars, TimeOfDay.minuteChars, t]

end Iso

/-- An offset as it is read back from its text: one of less than a second is lost. -/
def UtcOffset.asRead (o : UtcOffset) : UtcOffset := if o.micros.natAbs < 1000000 then .zero else o

theorem UtcOffset.micros_asRead (o : UtcOffset) :
    o.asRead.micros = if o.micros.natAbs < 1000000 then 0 else o.micros := by
  rw [asRead]
  split <;> rfl

namespace Iso

theorem offset?_isoChars (o : UtcOffset) : offset? o.isoChars = some (some o.asRead.micros) := by
  obtain ⟨t, chars, whole, text, read⟩ := exists_timeFields?_isoChars o
  have asRead := o.micros_asRead
  have micro := t.valid.2.2.2
  rw [TimeOfDay.micros] at whole
  have size : (if t.hour * 3600 + t.minute * 60 + t.second = 0 then 0
      else ((t.hour * 3600 + t.minute * 60 + t.second : Nat) * 1000000 + t.micro : Int)) =
      o.asRead.micros.natAbs := by
    split <;> split at asRead <;> omega
  by_cases negative : o.micros < 0
  · have below : -(o.asRead.micros.natAbs : Int) = o.asRead.micros := by
      split at asRead <;> omega
    rw [text, if_pos negative, offset?.eq_3 _ _ (by simp), read]
    simp only [Option.bind_eq_bind, Option.bind_some, size]
    exact congrArg (fun size => some (some size)) below
  · have above : (o.asRead.micros.natAbs : Int) = o.asRead.micros := by
      split at asRead <;> omega
    rw [text, if_neg negative, offset?.eq_3 _ _ (by simp), read]
    simp only [Option.bind_eq_bind, Option.bind_some, size]
    exact congrArg (fun size => some (some size)) above

/-- The date of a moment takes ten characters. -/
theorem dateLength_isoChars (d : Date) (c : Char) (rest : List Char) :
    dateLength (d.isoChars ++ c :: rest) = 10 := by
  have notWeek (n : Nat) : Text.digitChar (n % 10) ≠ 'W' :=
    digitChar_ne (Nat.mod_lt n (by decide)) (by decide)
  simp [dateLength, Date.isoChars, Text.fixedDigits, notWeek]

end Iso

namespace Moment

/-- A moment is read back to the second, with its offset. -/
theorem ofIso_isoSeconds_eq (m : Moment) :
    ofIso m.isoSeconds = .ok { m.wholeSecond with offset := m.offset.map UtcOffset.asRead } := by
  obtain ⟨date, time, offset⟩ := m
  obtain ⟨zone, isZone⟩ : ∃ zone, zone = (offset.map UtcOffset.isoChars).getD [] := ⟨_, rfl⟩
  have text : isoSecondChars ⟨date, time, offset⟩ = date.isoChars ++ 'T' :: (time.secondChars ++ zone) := by
    simp [isoSecondChars, offsetChars, isZone]
  have read : Iso.offset? zone = some (offset.map (·.asRead.micros)) := by
    cases offset with
    | none => rw [isZone]; rfl
    | some o => rw [isZone]; exact Iso.offset?_isoChars o
  have starts : zone.takeWhile (!Iso.startsOffset ·) = [] ∧ zone.dropWhile (!Iso.startsOffset ·) = zone := by
    cases offset with
    | none => rw [isZone]; exact ⟨rfl, rfl⟩
    | some o =>
      obtain ⟨_, chars, _, text, _⟩ := Iso.exists_timeFields?_isoChars o
      rw [isZone, Option.map_some, Option.getD_some, text]
      split <;> exact ⟨rfl, rfl⟩
  have clocked : ∀ c ∈ time.secondChars, (!Iso.startsOffset c) = true := fun c member => by
    simp [Iso.not_startsOffset_secondChars member]
  have clock : (time.secondChars ++ zone).takeWhile (!Iso.startsOffset ·) = time.secondChars := by
    rw [List.takeWhile_append_of_pos clocked, starts.1, List.append_nil]
  have rest : (time.secondChars ++ zone).dropWhile (!Iso.startsOffset ·) = zone := by
    rw [List.dropWhile_append_of_pos clocked, starts.2]
  have parts : ∃ extra, Iso.momentParts? (date.isoChars ++ 'T' :: (time.secondChars ++ zone)) =
      some (.ok date, { hour := time.hour, minute := time.minute, second := time.second, extra },
        offset.map (·.asRead.micros)) := by
    cases isEmpty : zone.isEmpty with
    | true => exact ⟨false, by simp [Iso.momentParts?, Iso.dateLength_isoChars, Date.length_isoChars,
        Iso.date?_isoChars, Iso.time?, clock, rest, Iso.timeFields?_secondChars, read, isEmpty]⟩
    | false => exact ⟨true, by simp [Iso.momentParts?, Iso.dateLength_isoChars, Date.length_isoChars,
        Iso.date?_isoChars, Iso.time?, clock, rest, Iso.timeFields?_secondChars, read, isEmpty]⟩
  obtain ⟨extra, parts⟩ := parts
  have made : TimeOfDay.make time.hour time.minute time.second 0 = .ok time.wholeSecond :=
    dif_pos time.wholeSecond.valid
  rw [ofIso, isoSeconds, String.toList_ofList, text, parts]
  simp only [Iso.assemble, made]
  cases offset with
  | none => rfl
  | some o =>
    have valid : UtcOffset.make o.asRead.micros = .ok o.asRead := dif_pos o.asRead.valid
    simp only [Option.map_some, valid]
    rfl

theorem offset_eq_none {m : Moment} (naive : m.isNaive) : m.offset = none := by simpa [isNaive] using naive

/-- A moment without an offset is read back to the second. -/
theorem ofIso_isoSeconds {m : Moment} (naive : m.isNaive) : ofIso m.isoSeconds = .ok m.wholeSecond := by
  have none := offset_eq_none naive
  rw [ofIso_isoSeconds_eq, none]
  obtain ⟨date, time, offset⟩ := m
  cases none
  rfl

theorem isNaive_wholeSecond {m : Moment} (naive : m.isNaive) : m.wholeSecond.isNaive := naive

/-- The start of a second, in microseconds. -/
theorem localMicros_wholeSecond (m : Moment) :
    m.wholeSecond.localMicros = m.localMicros / 1000000 * 1000000 := by
  have micro := m.time.valid.2.2.2
  simp only [localMicros, wholeSecond, TimeOfDay.wholeSecond, TimeOfDay.micros, microsPerDay]
  omega

theorem instant_eq {m : Moment} (naive : m.isNaive) : m.instant = m.localMicros := by
  simp [instant, offset_eq_none naive]

/-- Starts of seconds are in the order of their moments. -/
theorem wholeSecond_mono {a b : Moment} (naiveA : a.isNaive) (naiveB : b.isNaive)
    (before : a.instant ≤ b.instant) : a.wholeSecond.instant ≤ b.wholeSecond.instant := by
  rw [instant_eq naiveA, instant_eq naiveB] at before
  rw [instant_eq (isNaive_wholeSecond naiveA), instant_eq (isNaive_wholeSecond naiveB),
    localMicros_wholeSecond, localMicros_wholeSecond]
  omega

end Moment

end IssueTracker
