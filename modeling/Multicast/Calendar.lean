import Multicast.Bits
import Multicast.Text.Split

/-!
# `Multicast.Calendar` — dates of the clock

The clock counts seconds from the start of 1970 in universal time, and may be negative. Dates follow
the Gregorian calendar in both directions, as far as the year can be written in 32 bits.

## Contents
- **Days.** `civil`: year, month and day of a day number. Years are taken to start in March, so that
  the leap day is the last one of its year; 400 years have 146097 days.
- **Stamps.** `Stamp.ofSeconds`, and its two written forms, which differ in how the day is padded.
- **Limits.** `DateError`, and `Stamp.ofClock?`, which refuses a clock without a date.
-/

namespace Multicast.Calendar

open Text

/-! ## Days -/

/-- Year, month and day of a day, counted from the first of January 1970. -/
def civil (day : Int) : Int × Nat × Nat :=
  let shifted := day + 719468
  let era := shifted / 146097
  let dayOfEra := (shifted % 146097).toNat
  let yearOfEra := (dayOfEra - dayOfEra / 1460 + dayOfEra / 36524 - dayOfEra / 146096) / 365
  let dayOfYear := dayOfEra - (365 * yearOfEra + yearOfEra / 4 - yearOfEra / 100)
  let monthFromMarch := (5 * dayOfYear + 2) / 153
  let dayOfMonth := dayOfYear - (153 * monthFromMarch + 2) / 5 + 1
  let month := if monthFromMarch < 10 then monthFromMarch + 3 else monthFromMarch - 9
  (yearOfEra + era * 400 + (if month ≤ 2 then 1 else 0), month, dayOfMonth)

/-- The day of the week, Sunday first. -/
def weekday (day : Int) : Nat := ((day + 4) % 7).toNat

/-! ## Stamps -/

/-- A moment, to the second. -/
structure Stamp where
  year : Int
  month : Nat
  day : Nat
  weekday : Nat
  hour : Nat
  minute : Nat
  second : Nat
deriving Repr, DecidableEq

/-- Short names of the days of the week. -/
def dayNames : List String := ["Sun", "Mon", "Tue", "Wed", "Thu", "Fri", "Sat"]

/-- Short names of the months. -/
def monthNames : List String :=
  ["Jan", "Feb", "Mar", "Apr", "May", "Jun", "Jul", "Aug", "Sep", "Oct", "Nov", "Dec"]

namespace Stamp

/-- The moment at which the clock shows the given seconds. -/
def ofSeconds (clock : Int) : Stamp :=
  let day := clock / 86400
  let time := (clock % 86400).toNat
  let (year, month, dayOfMonth) := civil day
  ⟨year, month, dayOfMonth, Calendar.weekday day, time / 3600, time / 60 % 60, time % 60⟩

/-- A number of two digits. -/
def twoDigits (n : Nat) : String := if n < 10 then s!"0{n}" else toString n

/-- A stamp with its day written as given. -/
def write (t : Stamp) (day : String) : String :=
  let name := dayNames[t.weekday]?.getD ""
  let month := monthNames[t.month - 1]?.getD ""
  let time := s!"{twoDigits t.hour}:{twoDigits t.minute}:{twoDigits t.second}"
  s!"{name} {month} {day} {time} {t.year}"

/-- A stamp whose day is padded with a blank, as the screen's bar shows it. -/
def blankPadded (t : Stamp) : String := t.write (padLeft 2 (toString t.day))

/-- A stamp whose day is padded with a zero, as log lines start with it. -/
def zeroPadded (t : Stamp) : String := t.write (twoDigits t.day)

end Stamp

/-! ## Limits -/

/-- Why a clock has no date. -/
inductive DateError where
  /-- The seconds do not fit 64 bits. -/
  | seconds
  /-- The year, counted from 1900, does not fit 32 bits. -/
  | yearFrom1900
  /-- The year itself does not fit 32 bits. -/
  | year
deriving Repr, DecidableEq

/-- The wording of a clock without a date. -/
def DateError.message : DateError → String
  | seconds => "timestamp out of range for platform time_t"
  | yearFrom1900 => "[Errno 75] Value too large for defined data type"
  | year => "signed integer is greater than maximum"

/-- The moment at which the clock shows the given seconds, if that moment has a date. -/
def Stamp.ofClock? (clock : Int) : Except DateError Stamp :=
  let t := ofSeconds clock
  if !fitsSigned 64 clock then .error .seconds
  else if !fitsSigned 32 (t.year - 1900) then .error .yearFrom1900
  else if !fitsSigned 32 t.year then .error .year
  else .ok t

end Multicast.Calendar
