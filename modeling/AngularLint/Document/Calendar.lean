import AngularLint.Text.Digit
import AngularLint.Total

/-!
# Dates and times

Days of the Gregorian calendar, extended backwards to the year one, and times of a day with or
without the offset of their zone from universal time.
-/

set_option autoImplicit false

namespace AngularLint

/-- A day. -/
structure Date where
  year : Nat
  month : Nat
  day : Nat
deriving DecidableEq

/-- A time of day, to the microsecond. -/
structure Clock where
  hour : Nat
  minute : Nat
  second : Nat
  micro : Nat
deriving DecidableEq

/-- A time on a day. The offset of the zone is counted in minutes. -/
structure Moment where
  date : Date
  clock : Clock
  offset : Option Int
deriving DecidableEq

/-- Why numbers make no date or time. -/
inductive CalendarFault where
  | year (year : Nat)
  | month
  | day
  | hour
  | minute
  | second
  | offset (minutes : Int)

namespace Calendar

def padded (width n : Nat) : String :=
  let digits := toString n
  String.ofList (List.replicate (width - digits.length) '0') ++ digits

def minutesOfDay : Int := 24 * 60

/-- A stretch of minutes in whole days, rounded down, and the seconds that are left. -/
def shownSpan (minutes : Int) : String :=
  let days := Int.fdiv minutes minutesOfDay
  let seconds := Int.fmod minutes minutesOfDay * 60
  let parts := (if days == 0 then [] else [s!"days={days}"]) ++
    (if seconds == 0 then [] else [s!"seconds={seconds}"])
  "datetime.timedelta(" ++ (if parts.isEmpty then "0" else String.intercalate ", " parts) ++ ")"

def isLeap (year : Nat) : Bool := year % 4 == 0 && (year % 100 != 0 || year % 400 == 0)

def daysOf (year month : Nat) : Nat :=
  if month == 2 then (if isLeap year then 29 else 28)
  else if month == 4 || month == 6 || month == 9 || month == 11 then 30
  else 31

def daysBeforeYear (year : Nat) : Nat :=
  let y := year - 1
  y * 365 + y / 4 - y / 100 + y / 400

end Calendar

def CalendarFault.message : CalendarFault → String
  | .year y => s!"year {y} is out of range"
  | .month => "month must be in 1..12"
  | .day => "day is out of range for month"
  | .hour => "hour must be in 0..23"
  | .minute => "minute must be in 0..59"
  | .second => "second must be in 0..59"
  | .offset minutes =>
    "offset must be a timedelta strictly between -timedelta(hours=24) and timedelta(hours=24), not "
      ++ Calendar.shownSpan minutes ++ "."

namespace Date

/-- The date, if there is such a day. -/
def check (d : Date) : Except CalendarFault Date :=
  if d.year == 0 || 9999 < d.year then .error (.year d.year)
  else if d.month == 0 || 12 < d.month then .error .month
  else if d.day == 0 || Calendar.daysOf d.year d.month < d.day then .error .day
  else .ok d

def ordinal (d : Date) : Nat :=
  Calendar.daysBeforeYear d.year +
    total ((List.range (d.month - 1)).map fun m => Calendar.daysOf d.year (m + 1)) + d.day

def display (d : Date) : String :=
  s!"{Calendar.padded 4 d.year}-{Calendar.padded 2 d.month}-{Calendar.padded 2 d.day}"

/-- The date as messages show it inside other values. -/
def shown (d : Date) : String := s!"datetime.date({d.year}, {d.month}, {d.day})"

end Date

namespace Moment

/-- The moment, if there is such a time; the zone is looked at first, the date next. -/
def check (m : Moment) : Except CalendarFault Moment :=
  match m.offset.filter fun o => Calendar.minutesOfDay ≤ o.natAbs with
  | some o => .error (.offset o)
  | none => do
    let _ ← m.date.check
    if 23 < m.clock.hour then .error .hour
    else if 59 < m.clock.minute then .error .minute
    else if 59 < m.clock.second then .error .second
    else .ok m

/-- The microseconds of universal time up to the moment. -/
def microseconds (m : Moment) : Int :=
  let minutes : Int := m.date.ordinal * Calendar.minutesOfDay + m.clock.hour * 60 + m.clock.minute
  ((minutes - m.offset.getD 0) * 60 + m.clock.second) * 1000000 + m.clock.micro

/-- Do two moments denote the same time? One with a zone and one without never do. -/
def isSame (a b : Moment) : Bool :=
  a.offset.isSome == b.offset.isSome && a.microseconds == b.microseconds

def displayOffset (minutes : Int) : String :=
  let n := minutes.natAbs
  (if minutes < 0 then "-" else "+") ++ Calendar.padded 2 (n / 60) ++ ":" ++
    Calendar.padded 2 (n % 60)

def display (m : Moment) : String :=
  let c := m.clock
  let fraction := if c.micro == 0 then "" else "." ++ Calendar.padded 6 c.micro
  let zone := (m.offset.map displayOffset).getD ""
  m.date.display ++ " " ++ Calendar.padded 2 c.hour ++ ":" ++ Calendar.padded 2 c.minute ++ ":" ++
    Calendar.padded 2 c.second ++ fraction ++ zone

def shownZone (minutes : Int) : String :=
  if minutes == 0 then "datetime.timezone.utc"
  else "datetime.timezone(" ++ Calendar.shownSpan minutes ++ ")"

/-- The moment as messages show it inside other values; zeros at the end are left out. -/
def shown (m : Moment) : String :=
  let c := m.clock
  let numbers := [m.date.year, m.date.month, m.date.day, c.hour, c.minute] ++
    (if c.second == 0 && c.micro == 0 then [] else [c.second]) ++
    (if c.micro == 0 then [] else [c.micro])
  let zone := m.offset.toList.map fun o => "tzinfo=" ++ shownZone o
  "datetime.datetime(" ++ String.intercalate ", " (numbers.map toString ++ zone) ++ ")"

end Moment

end AngularLint
