/-!
# Dates and date-times

Settings may hold dates and date-times, also as keys. A date is a day of the Gregorian calendar, reckoned
back to the year 1. A date-time is what a calendar and a clock show, with the clock's distance from
universal time if that is known. Two clocks at a known distance that show the same instant are equal.
-/

namespace ScriptCoverage

namespace Calendar

def isLeap (year : Nat) : Bool := year % 4 == 0 && (year % 100 != 0 || year % 400 == 0)

/-- How many days the months of a year have. -/
def monthLengths (year : Nat) : List Nat :=
  [31, if isLeap year then 29 else 28, 31, 30, 31, 30, 31, 31, 30, 31, 30, 31]

/-- How many days lie between the first day of the year 1 and the first day of a year. -/
def daysBefore (year : Nat) : Nat :=
  let past := year - 1
  365 * past + past / 4 - past / 100 + past / 400

/-- The first year that no date has. -/
def endYear : Nat := 10000

/-- The month and the day in it, from the months that remain and the days before. -/
def monthDay (month days : Nat) : List Nat → Nat × Nat
  | [] => (month, days + 1)
  | length :: rest => if days < length then (month, days + 1) else monthDay (month + 1) (days - length) rest

/-- Year, month and day of a date, from the number of days before it. Four hundred years have a fixed number
of days, and so have the hundreds, fours and single years in them, apart from a day at their end. -/
def civil (days : Nat) : Nat × Nat × Nat :=
  let inEra := days % 146097
  let century := min (inEra / 36524) 3
  let inCentury := inEra - century * 36524
  let inFour := inCentury % 1461
  let single := min (inFour / 365) 3
  let year := 400 * (days / 146097) + 100 * century + 4 * (inCentury / 1461) + single + 1
  (year, monthDay 1 (inFour - single * 365) (monthLengths year))

/-- A number with zeros in front, up to a width. -/
def padded (width n : Nat) : String :=
  let digits := (toString n).toList
  String.ofList (List.replicate (width - digits.length) '0' ++ digits)

/-- A date as it is written: `2020-01-31`. -/
def dateText (days : Nat) : String :=
  let (year, month, day) := civil days
  s!"{padded 4 year}-{padded 2 month}-{padded 2 day}"

end Calendar

/-- A day of the calendar, by how many days lie between it and the first one. -/
structure Date where
  days : Nat
  inCalendar : days < Calendar.daysBefore Calendar.endYear
  deriving DecidableEq, Repr

namespace Date

/-- The day with these numbers, if the calendar has it. -/
def ofCivil? (year month day : Nat) : Option Date :=
  let lengths := Calendar.monthLengths year
  let days := Calendar.daysBefore year + (lengths.take (month - 1)).foldl (· + ·) 0 + (day - 1)
  if 0 < year ∧ 0 < month ∧ 0 < day ∧ lengths[month - 1]?.any (day ≤ ·) then
    if h : days < Calendar.daysBefore Calendar.endYear then some ⟨days, h⟩ else none
  else none

def text (d : Date) : String := Calendar.dateText d.days

/-- A date as messages spell it. -/
def literal (d : Date) : String :=
  let (year, month, day) := Calendar.civil d.days
  s!"datetime.date({year}, {month}, {day})"

end Date

/-- What a calendar and a clock show. -/
structure DateTime where
  /-- Microseconds since the first day of the calendar began. -/
  clock : Int
  /-- How many minutes the clock is ahead of universal time, if that is known. -/
  ahead : Option Int := none
  deriving DecidableEq, Repr

namespace DateTime

def minute : Nat := 60 * 1000000

def day : Nat := 24 * 60 * minute

/-- The representative of all date-times that are equal: the instant in universal time, if it is known. It
may lie outside of the calendar. -/
def key (t : DateTime) : DateTime :=
  match t.ahead with
  | some minutes => { clock := t.clock - minutes * minute, ahead := some 0 }
  | none => t

/-- The days and the microseconds in the last of them. -/
def parts (t : DateTime) : Nat × Nat := (t.clock.toNat / day, t.clock.toNat % day)

/-- The distance from universal time in text: `+01:30`. -/
def zoneText (minutes : Int) : String :=
  let sign := if minutes < 0 then "-" else "+"
  let distance := minutes.natAbs
  s!"{sign}{Calendar.padded 2 (distance / 60)}:{Calendar.padded 2 (distance % 60)}"

def text (t : DateTime) : String :=
  let (days, micros) := t.parts
  let seconds := micros / 1000000
  let fraction := micros % 1000000
  let places := [seconds / 3600, seconds / 60 % 60, seconds % 60].map (Calendar.padded 2)
  Calendar.dateText days ++ " " ++ ":".intercalate places ++
    (if fraction = 0 then "" else s!".{Calendar.padded 6 fraction}") ++
    (match t.ahead with
    | some minutes => zoneText minutes
    | none => "")

/-- A distance in time as messages spell it: whole days, which may be negative, and seconds. -/
def distanceLiteral (minutes : Int) : String :=
  let days := if minutes / 1440 = 0 then [] else [s!"days={minutes / 1440}"]
  let seconds := if minutes % 1440 = 0 then [] else [s!"seconds={60 * (minutes % 1440)}"]
  "datetime.timedelta(" ++ ", ".intercalate (days ++ seconds) ++ ")"

/-- The distance from universal time as messages spell it. -/
def zoneLiteral (minutes : Int) : String :=
  if minutes = 0 then "datetime.timezone.utc" else s!"datetime.timezone({distanceLiteral minutes})"

/-- A date-time as messages spell it. Seconds and their fractions are left out where they are zero. -/
def literal (t : DateTime) : String :=
  let (days, micros) := t.parts
  let (year, month, day) := Calendar.civil days
  let seconds := micros / 1000000
  let fraction := micros % 1000000
  let fine := if fraction ≠ 0 then [seconds % 60, fraction] else if seconds % 60 ≠ 0 then [seconds % 60] else []
  let numbers := [year, month, day, seconds / 3600, seconds / 60 % 60] ++ fine
  let zone := match t.ahead with
    | some minutes => [s!"tzinfo={zoneLiteral minutes}"]
    | none => []
  "datetime.datetime(" ++ ", ".intercalate (numbers.map toString ++ zone) ++ ")"

end DateTime

end ScriptCoverage
