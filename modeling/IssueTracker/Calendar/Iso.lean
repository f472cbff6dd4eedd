import IssueTracker.Calendar.Moment
import IssueTracker.Text.Quoted

/-!
# Reading ISO 8601

A date is `YYYY-MM-DD`, `YYYYMMDD`, `YYYY-Www`, `YYYYWww`, `YYYY-Www-D` or `YYYYWwwD`.  A moment is
a date, any one character and a time `HH[:MM[:SS[.f…]]]` with or without its colons, then `Z` or a
signed offset in the same notation.  Of a fraction the first six digits count.  A NUL at the end of
a time is passed over.
-/

namespace IssueTracker.Iso

/-- An ASCII digit. -/
def isDigit (c : Char) : Bool := '0' ≤ c && c ≤ '9'

/-- The number that the next `n` characters write in ASCII digits after `acc`, and the rest. -/
def takeDigits : Nat → Nat → List Char → Option (Nat × List Char)
  | 0, acc, cs => some (acc, cs)
  | n + 1, acc, c :: cs => if isDigit c then takeDigits n (10 * acc + (c.toNat - 48)) cs else none
  | _ + 1, _, [] => none

/-- The Monday of the first week of a year: the week that holds the year's first Thursday. -/
def firstMonday (year : Nat) : Int :=
  let newYear := daysBeforeYear year + 1
  let weekday := (newYear + 6) % 7
  (newYear : Int) - weekday + (if 3 < weekday then 7 else 0)

/-- Whether a year has a fifty-third week. -/
def hasLongYear (year : Nat) : Bool :=
  let weekday := (daysBeforeYear year + 7) % 7
  weekday == 3 || (weekday == 2 && isLeap year)

/-- The day of a week.  The inner error is a day that the calendar lacks; `none` is a week or day
    number that no year has. -/
def weekDate? (year week day : Nat) : Option (Except CalendarError Date) :=
  if ¬(1 ≤ day ∧ day ≤ 7) ∨ week = 0 ∨ 53 < week then none
  else if year = 0 then if week = 53 then none else some (.error .month)
  else if week = 53 ∧ ¬hasLongYear year then none
  else match Date.ofOrdinal? (firstMonday year + (week - 1) * 7 + (day - 1)).toNat with
    | some d => some (.ok d)
    | none => some (.error (.year (year + 1)))

/-- The date that a text writes.  The inner error is a component out of range. -/
def date? (cs : List Char) : Option (Except CalendarError Date) := do
  let (year, rest) ← takeDigits 4 0 cs
  let dashed := rest.head? == some '-'
  let rest := if dashed then rest.tail else rest
  if rest.head? == some 'W' then
    let (week, rest) ← takeDigits 2 0 rest.tail
    match rest with
    | [] => weekDate? year week 1
    | c :: more =>
      if dashed && c != '-' then none
      let (day, _) ← takeDigits 1 0 (if dashed then more else rest)
      weekDate? year week day
  else
    let (month, rest) ← takeDigits 2 0 rest
    if dashed && rest.head? != some '-' then none
    let (day, _) ← takeDigits 2 0 (if dashed then rest.tail else rest)
    some (Date.make year month day)

/-- Where the date of a moment ends. -/
def dateLength (cs : List Char) : Nat :=
  if cs.length = 7 then 7
  else if cs[4]? == some '-' then
    if cs[5]? == some 'W' then
      if cs[8]? == some '-' ∧ ¬(cs[10]?.any isDigit) then 10 else 8
    else 10
  else if cs[4]? == some 'W' then
    let run := ((cs.drop 7).takeWhile isDigit).length
    if run < 2 then 7 + run else if run % 2 = 1 then 7 else 8
  else 8

/-- The components of a time, and whether anything but its end followed them. -/
structure TimeFields where
  hour : Nat := 0
  minute : Nat := 0
  second : Nat := 0
  micro : Nat := 0
  extra : Bool := false

/-- The components of a time that one more character follows, which is ASCII. -/
def TimeFields.before? (fields : TimeFields) (c : Char) : Option TimeFields :=
  if c.toNat < 0x80 then some { fields with extra := c != '\x00' } else none

/-- Reads a fraction of a second: its first six digits. -/
def fraction? (fields : TimeFields) (closed : Bool) (cs : List Char) : Option TimeFields := do
  let places := min cs.length 6
  let (value, rest) ← takeDigits places 0 cs
  let after := rest.dropWhile isDigit
  let extra := match after with
    | [] => !closed
    | c :: _ => c != '\x00'
  some { fields with micro := value * Nat.pow 10 (6 - places), extra }

/-- Reads the components of a time from the first on.  `closed` tells that the text ends after
    `cs`, rather than going on with an offset. -/
def timeFields? (closed : Bool) (cs : List Char) : Option TimeFields := do
  let (hour, rest) ← takeDigits 2 0 cs
  let fields : TimeFields := { hour }
  match rest with
  | [] => some { fields with extra := !closed }
  | [c] => fields.before? c
  | c :: more =>
    let colons := c == ':'
    if c == '.' || c == ',' then fraction? fields closed more else
    let (minute, rest) ← takeDigits 2 0 (if colons then more else rest)
    let fields := { fields with minute }
    match rest with
    | [] => some { fields with extra := !closed }
    | [c] => fields.before? c
    | c :: more =>
      if c == '.' || c == ',' then fraction? fields closed more else
      if colons && c != ':' then none
      let (second, rest) ← takeDigits 2 0 (if colons then more else rest)
      let fields := { fields with second }
      match rest with
      | [] => some { fields with extra := !closed }
      | [c] => fields.before? c
      | c :: more =>
        if c == '.' || c == ',' || (colons && c == ':') then fraction? fields closed more
        else if colons then none
        else fraction? fields closed rest

/-- A character that begins an offset. -/
def startsOffset (c : Char) : Bool := c == '+' || c == '-' || c == 'Z'

/-- The offset that a text after the time writes, in microseconds. -/
def offset? : List Char → Option (Option Int)
  | [] => some none
  | 'Z' :: rest => if rest.headD '\x00' == '\x00' then some (some 0) else none
  | sign :: rest => do
    let fields ← timeFields? true rest
    if fields.extra then none
    let seconds := fields.hour * 3600 + fields.minute * 60 + fields.second
    let size : Int := if seconds = 0 then 0 else seconds * 1000000 + fields.micro
    some (some (if sign == '-' then -size else size))

/-- The time of a moment and its offset in microseconds. -/
def time? (cs : List Char) : Option (TimeFields × Option Int) := do
  let clock := cs.takeWhile (!startsOffset ·)
  let zone := cs.dropWhile (!startsOffset ·)
  let fields ← timeFields? zone.isEmpty clock
  if zone.isEmpty && fields.extra then none
  let offset ← offset? zone
  some (fields, offset)

/-- The moment with the given date, components and offset; an offset out of range is reported
    before a date, and a date before a time. -/
def assemble (date : Except CalendarError Date) (fields : TimeFields) (offset : Option Int) :
    Except CalendarError Moment := do
  let offset ← match offset with
    | none => pure none
    | some micros => some <$> UtcOffset.make micros
  let date ← date
  let time ← TimeOfDay.make fields.hour fields.minute fields.second fields.micro
  pure ⟨date, time, offset⟩

/-- The parts of a moment that a text writes. -/
def momentParts? (cs : List Char) :
    Option (Except CalendarError Date × TimeFields × Option Int) := do
  let date ← date? (cs.take (dateLength cs))
  match cs.drop (dateLength cs) with
  | [] => some (date, {}, none)
  | _ :: rest =>
    let (fields, offset) ← time? rest
    some (date, fields, offset)

end Iso

open Iso

/-- The moment that a text writes. -/
def Moment.ofIso (s : String) : Except CalendarError Moment :=
  match momentParts? s.toList with
  | none => .error (.malformed s)
  | some (date, fields, offset) => assemble date fields offset

/-- The moment that a text writes; none where the text is missing or empty. -/
def Moment.ofIso? : Option String → Except CalendarError (Option Moment)
  | none | some "" => .ok none
  | some text => (Moment.ofIso text).map some

/-- The date that a text of seven, eight or ten bytes starts with. -/
def Date.ofIso (s : String) : Except CalendarError Date :=
  if s.utf8ByteSize ∈ [7, 8, 10] then (date? s.toList).getD (.error (.malformed s))
  else .error (.malformed s)

/-- A length of time in days, seconds and microseconds, without the parts that are zero; only the
    days may be negative. -/
def durationText (micros : Int) : String :=
  let days := Int.fdiv micros microsPerDay
  let rest := (Int.fmod micros microsPerDay).toNat
  let part (name : String) (n : Int) : List String :=
    if n = 0 then [] else [name ++ "=" ++ toString n]
  ", ".intercalate <| part "days" days ++ part "seconds" (rest / 1000000 : Nat) ++
    part "microseconds" (rest % 1000000 : Nat)

/-- What is reported of a date or time that cannot be read. -/
def CalendarError.message : CalendarError → String
  | .year value => s!"year {value} is out of range"
  | .month => "month must be in 1..12"
  | .day => "day is out of range for month"
  | .hour => "hour must be in 0..23"
  | .minute => "minute must be in 0..59"
  | .second => "second must be in 0..59"
  | .offset micros =>
    "offset must be a timedelta strictly between -timedelta(hours=24) and timedelta(hours=24), " ++
      "not datetime.timedelta(" ++ durationText micros ++ ")."
  | .malformed text => "Invalid isoformat string: " ++ Text.literal text

end IssueTracker
