/-!
# The Calendar

Dates of the Gregorian calendar, extended without limit to both sides, and their day numbers. Day 0
is the first of January 1970.

Years are counted from March on, so that a leap day is the last day of its year, and in eras of 400
years, after which the calendar repeats.
-/

namespace ManifestPatch

/-- A **date**. -/
structure Date where
  year : Int
  month : Nat
  day : Nat
  deriving DecidableEq, Repr

namespace Date

/-- Whether the year has a leap day. -/
def isLeapYear (year : Int) : Bool :=
  year % 4 == 0 && (year % 100 != 0 || year % 400 == 0)

/-- The number of days of a month. -/
def daysInMonth (year : Int) (month : Nat) : Nat :=
  if month = 2 then (if isLeapYear year then 29 else 28)
  else if month = 4 ∨ month = 6 ∨ month = 9 ∨ month = 11 then 30
  else 31

/-- Whether the calendar has the date. -/
def isValid (date : Date) : Bool :=
  1 ≤ date.month && date.month ≤ 12 && 1 ≤ date.day && date.day ≤ daysInMonth date.year date.month

/-- The number of days in an era of 400 years. -/
def daysPerEra : Int := 146097

/-- The day number of the first day of era 0, which is the first of March of the year 0. -/
def firstDay : Int := -719468

/-- The days of a year from March on that precede a month. -/
def daysBefore (month : Nat) : Int :=
  (153 * (((month : Int) + 9) % 12) + 2) / 5

/-- The **day number** of a date. -/
def dayNumber (date : Date) : Int :=
  let year := if date.month ≤ 2 then date.year - 1 else date.year
  let yearOfEra := year % 400
  let dayOfYear := daysBefore date.month + date.day - 1
  let dayOfEra := 365 * yearOfEra + yearOfEra / 4 - yearOfEra / 100 + dayOfYear
  daysPerEra * (year / 400) + dayOfEra + firstDay

/-- The date with a day number. -/
def ofDayNumber (n : Int) : Date :=
  let days := n - firstDay
  let dayOfEra := days % daysPerEra
  let yearOfEra := (dayOfEra - dayOfEra / 1460 + dayOfEra / 36524 - dayOfEra / 146096) / 365
  let dayOfYear := dayOfEra - (365 * yearOfEra + yearOfEra / 4 - yearOfEra / 100)
  let monthFromMarch := (5 * dayOfYear + 2) / 153
  let day := dayOfYear - (153 * monthFromMarch + 2) / 5 + 1
  let month := if monthFromMarch < 10 then monthFromMarch + 3 else monthFromMarch - 9
  let year := 400 * (days / daysPerEra) + yearOfEra + (if month ≤ 2 then 1 else 0)
  { year, month := month.toNat, day := day.toNat }

end Date

end ManifestPatch
