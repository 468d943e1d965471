/-!
# The calendar

Days of the proleptic Gregorian calendar, counted from 1970-01-01. The count works in eras of 400
years that start in March, so that the leap day is the last day of a year.

## Main definitions

* `Calendar.Date`: a year, a month and a day.
* `Calendar.Date.valid`: whether the calendar has the date.
* `Calendar.toDays`, `Calendar.ofDays`: the number of a date and back.
-/

namespace RecordQuery.Calendar

/-- A date of the calendar. -/
structure Date where
  year : Int
  month : Nat
  day : Nat
  deriving DecidableEq, Repr

/-- A leap year has a 29th of February. -/
def isLeapYear (year : Int) : Bool := year % 4 == 0 && (year % 100 != 0 || year % 400 == 0)

/-- The number of days of a month. -/
def daysInMonth (year : Int) (month : Nat) : Nat :=
  if month = 2 then (if isLeapYear year then 29 else 28)
  else if month = 4 ∨ month = 6 ∨ month = 9 ∨ month = 11 then 30
  else 31

/-- The first and last years that can be written. -/
def yearRange : Int × Int := (-262143, 262142)

/-- Whether the calendar has a date and its year can be written. -/
def Date.valid (d : Date) : Bool :=
  yearRange.1 ≤ d.year && d.year ≤ yearRange.2 && 1 ≤ d.month && d.month ≤ 12 &&
    1 ≤ d.day && d.day ≤ daysInMonth d.year d.month

/-- The number of days in an era of 400 years. -/
def daysPerEra : Int := 146097

/-- The days from 1970-01-01 to a date. -/
def toDays (d : Date) : Int :=
  let year := if d.month ≤ 2 then d.year - 1 else d.year
  let era := year.fdiv 400
  let yearOfEra := year - era * 400
  let month : Int := if d.month ≤ 2 then d.month + 9 else d.month - 3
  let dayOfYear := (153 * month + 2) / 5 + d.day - 1
  let dayOfEra := yearOfEra * 365 + yearOfEra / 4 - yearOfEra / 100 + dayOfYear
  era * daysPerEra + dayOfEra - 719468

/-- The date a number of days after 1970-01-01. -/
def ofDays (n : Int) : Date :=
  let shifted := n + 719468
  let era := shifted.fdiv daysPerEra
  let dayOfEra := shifted - era * daysPerEra
  let yearOfEra := (dayOfEra - dayOfEra / 1460 + dayOfEra / 36524 - dayOfEra / 146096) / 365
  let dayOfYear := dayOfEra - (365 * yearOfEra + yearOfEra / 4 - yearOfEra / 100)
  let month := (5 * dayOfYear + 2) / 153
  let day := dayOfYear - (153 * month + 2) / 5 + 1
  let calendarMonth := if month < 10 then month + 3 else month - 9
  let year := yearOfEra + era * 400 + (if calendarMonth ≤ 2 then 1 else 0)
  ⟨year, calendarMonth.toNat, day.toNat⟩

end RecordQuery.Calendar
