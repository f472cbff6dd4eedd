import IssueTracker.Text.Digits

/-!
# Calendar dates

The proleptic Gregorian calendar of the years 1 to 9999: which days exist, and their numbering from
the first of January of the year 1.
-/

namespace IssueTracker

/-- A year with a twenty-ninth of February. -/
def isLeap (year : Nat) : Bool := year % 4 == 0 && (year % 100 != 0 || year % 400 == 0)

/-- The number of days of a month. -/
def daysInMonth (year month : Nat) : Nat :=
  match month with
  | 2 => if isLeap year then 29 else 28
  | 4 | 6 | 9 | 11 => 30
  | _ => 31

/-- The days before the first of January of a year. -/
def daysBeforeYear (year : Nat) : Nat :=
  365 * (year - 1) + (year - 1) / 4 - (year - 1) / 100 + (year - 1) / 400

/-- The days of a year before the first of a month. -/
def daysBeforeMonth (year month : Nat) : Nat :=
  (List.range' 1 (month - 1)).foldr (fun earlier days => daysInMonth year earlier + days) 0

/-- The last year of the calendar. -/
def maxYear : Nat := 9999

/-- A year, month and day that the calendar has. -/
abbrev IsDate (year month day : Nat) : Prop :=
  1 ≤ year ∧ year ≤ maxYear ∧ 1 ≤ month ∧ month ≤ 12 ∧ 1 ≤ day ∧ day ≤ daysInMonth year month

/-- A day of the calendar. -/
structure Date where
  year : Nat
  month : Nat
  day : Nat
  valid : IsDate year month day
deriving DecidableEq

namespace Date

/-- The number of a day, the first of January of the year 1 being 1. -/
def ordinal (d : Date) : Nat := daysBeforeYear d.year + daysBeforeMonth d.year d.month + d.day

/-- The first day of the calendar. -/
def first : Date := ⟨1, 1, 1, by decide⟩

/-- The year that holds a numbered day. -/
def yearOfOrdinal (n : Nat) : Nat :=
  let guess := 400 * n / 146097 + 1
  if n ≤ daysBeforeYear guess then guess - 1
  else if daysBeforeYear (guess + 1) < n then guess + 1
  else guess

/-- The month, of those given in order, and the day of the month in which a day of the year
    falls. -/
def monthAndDay (year : Nat) : List Nat → Nat → Nat × Nat
  | [], n => (13, n)
  | month :: later, n =>
    if n ≤ daysInMonth year month then (month, n)
    else monthAndDay year later (n - daysInMonth year month)

/-- The day with a number, if the calendar reaches that far. -/
def ofOrdinal? (n : Nat) : Option Date :=
  let year := yearOfOrdinal n
  let (month, day) := monthAndDay year (List.range' 1 12) (n - daysBeforeYear year)
  if valid : IsDate year month day then some ⟨year, month, day, valid⟩ else none

/-- The day so many days earlier, if the calendar reaches back that far. -/
def minusDays? (d : Date) (days : Nat) : Option Date :=
  if days < d.ordinal then ofOrdinal? (d.ordinal - days) else none

/-- The day of the week, Monday being 0. -/
def weekday (d : Date) : Nat := (d.ordinal + 6) % 7

/-- A date as `YYYY-MM-DD`. -/
def isoChars (d : Date) : List Char :=
  Text.fixedDigits 4 d.year ++ '-' :: Text.fixedDigits 2 d.month ++ '-' :: Text.fixedDigits 2 d.day

/-- A date as `YYYY-MM-DD`. -/
def iso (d : Date) : String := String.ofList d.isoChars

end Date

/-- A component that lies outside its range, or a text that does not write a date or time. -/
inductive CalendarError
  | year (value : Nat)
  | month
  | day
  | hour
  | minute
  | second
  /-- An offset from universal time of a day or more, in microseconds. -/
  | offset (micros : Int)
  /-- A text in no accepted notation. -/
  | malformed (text : String)
deriving Repr, DecidableEq

/-- The day with these components, or the first component that is out of range. -/
def Date.make (year month day : Nat) : Except CalendarError Date :=
  if valid : IsDate year month day then .ok ⟨year, month, day, valid⟩
  else if ¬(1 ≤ year ∧ year ≤ maxYear) then .error (.year year)
  else if ¬(1 ≤ month ∧ month ≤ 12) then .error .month
  else .error .day

end IssueTracker
