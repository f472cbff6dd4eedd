import IssueTracker.Calendar.Date

/-!
# Moments

A moment is a calendar date and a time of day to the microsecond, with an offset from universal
time or without one.  Moments with and without an offset cannot be ordered.
-/

namespace IssueTracker

/-- A time of day. -/
structure TimeOfDay where
  hour : Nat
  minute : Nat
  second : Nat
  micro : Nat
  valid : hour < 24 ∧ minute < 60 ∧ second < 60 ∧ micro < 1000000
deriving DecidableEq

namespace TimeOfDay

/-- The start of a day. -/
def midnight : TimeOfDay := ⟨0, 0, 0, 0, by decide⟩

/-- The microseconds since midnight. -/
def micros (t : TimeOfDay) : Nat := ((t.hour * 60 + t.minute) * 60 + t.second) * 1000000 + t.micro

/-- The time at the start of its second. -/
def wholeSecond (t : TimeOfDay) : TimeOfDay :=
  ⟨t.hour, t.minute, t.second, 0, t.valid.1, t.valid.2.1, t.valid.2.2.1, by decide⟩

/-- The time with these components, or the first component that is out of range. -/
def make (hour minute second micro : Nat) : Except CalendarError TimeOfDay :=
  if valid : hour < 24 ∧ minute < 60 ∧ second < 60 ∧ micro < 1000000 then
    .ok ⟨hour, minute, second, micro, valid⟩
  else if ¬hour < 24 then .error .hour
  else if ¬minute < 60 then .error .minute
  else .error .second

/-- A time as `HH:MM`. -/
def minuteChars (t : TimeOfDay) : List Char :=
  Text.fixedDigits 2 t.hour ++ ':' :: Text.fixedDigits 2 t.minute

/-- A time as `HH:MM:SS`. -/
def secondChars (t : TimeOfDay) : List Char :=
  t.minuteChars ++ ':' :: Text.fixedDigits 2 t.second

end TimeOfDay

/-- The microseconds of a day. -/
def microsPerDay : Nat := 86400 * 1000000

/-- An offset from universal time of less than a day, positive to the east. -/
structure UtcOffset where
  micros : Int
  valid : micros.natAbs < microsPerDay
deriving DecidableEq

namespace UtcOffset

/-- Universal time itself. -/
def zero : UtcOffset := ⟨0, by decide⟩

/-- The offset of so many microseconds. -/
def make (micros : Int) : Except CalendarError UtcOffset :=
  if valid : micros.natAbs < microsPerDay then .ok ⟨micros, valid⟩ else .error (.offset micros)

/-- An offset as `+HH:MM`, with the seconds and microseconds that are not zero. -/
def isoChars (o : UtcOffset) : List Char :=
  let n := o.micros.natAbs
  let seconds := n / 1000000
  let micro := n % 1000000
  (if o.micros < 0 then '-' else '+') ::
    Text.fixedDigits 2 (seconds / 3600) ++ ':' :: Text.fixedDigits 2 (seconds / 60 % 60) ++
    (if seconds % 60 = 0 ∧ micro = 0 then [] else ':' :: Text.fixedDigits 2 (seconds % 60)) ++
    (if micro = 0 then [] else '.' :: Text.fixedDigits 6 micro)

end UtcOffset

/-- A date, a time of day and, where one is known, an offset from universal time. -/
structure Moment where
  date : Date
  time : TimeOfDay
  offset : Option UtcOffset
deriving DecidableEq

/-- Two moments that cannot be ordered: one has an offset and one has none. -/
inductive Incomparable
  | mixedOffsets
deriving Repr, DecidableEq

namespace Moment

/-- The start of a day, without an offset. -/
def atMidnight (d : Date) : Moment := ⟨d, .midnight, none⟩

/-- The first moment of the calendar. -/
def earliest : Moment := atMidnight .first

/-- A moment without an offset. -/
def isNaive (m : Moment) : Bool := m.offset.isNone

/-- The microseconds on the moment's own clock, from the day before the calendar starts. -/
def localMicros (m : Moment) : Nat := m.date.ordinal * microsPerDay + m.time.micros

/-- The microseconds in universal time, or on its own clock for a moment without an offset. -/
def instant (m : Moment) : Int := m.localMicros - (m.offset.map (·.micros)).getD 0

/-- The order of two moments. -/
def compare (a b : Moment) : Except Incomparable Ordering :=
  if a.isNaive = b.isNaive then .ok (Ord.compare a.instant b.instant) else .error .mixedOffsets

/-- The moment so many days earlier, at the same time of day. -/
def minusDays? (m : Moment) (days : Nat) : Option Moment :=
  (m.date.minusDays? days).map fun date => { m with date }

/-- The moment at the start of its second. -/
def wholeSecond (m : Moment) : Moment := { m with time := m.time.wholeSecond }

/-- The offset as it is written, nothing when there is none. -/
def offsetChars (m : Moment) : List Char := (m.offset.map UtcOffset.isoChars).getD []

/-- A moment to the second, as `YYYY-MM-DDTHH:MM:SS` and its offset. -/
def isoSecondChars (m : Moment) : List Char :=
  m.date.isoChars ++ 'T' :: m.time.secondChars ++ m.offsetChars

/-- A moment to the second, as `YYYY-MM-DDTHH:MM:SS` and its offset. -/
def isoSeconds (m : Moment) : String := String.ofList m.isoSecondChars

/-- A moment in full: with its microseconds, unless they are zero. -/
def iso (m : Moment) : String :=
  String.ofList <| m.date.isoChars ++ 'T' :: m.time.secondChars ++
    (if m.time.micro = 0 then [] else '.' :: Text.fixedDigits 6 m.time.micro) ++ m.offsetChars

/-- A moment to the minute, as `YYYY-MM-DD HH:MM`; the year is not padded. -/
def display (m : Moment) : String :=
  toString m.date.year ++ String.ofList ('-' :: Text.fixedDigits 2 m.date.month ++ '-' ::
    Text.fixedDigits 2 m.date.day ++ ' ' :: m.time.minuteChars)

end Moment

end IssueTracker
