/-!
# The calendar

Days of the proleptic Gregorian calendar as counts since 1970-01-01. A year is counted from March,
so that the leap day is its last, and 400 years are one era of equal length.
-/

namespace OrgAccess.Calendar

/-- A day by its year, month and day of the month. -/
structure Date where
  /-- The year; zero is the year before the year one. -/
  year : Int
  month : Nat
  day : Nat
deriving DecidableEq

/-- Whether a year has a leap day. -/
def isLeapYear (year : Int) : Bool :=
  year % 4 == 0 && (year % 100 != 0 || year % 400 == 0)

/-- The number of days in a month. -/
def daysInMonth (year : Int) (month : Nat) : Nat :=
  if month = 2 then if isLeapYear year then 29 else 28
  else if month = 4 ∨ month = 6 ∨ month = 9 ∨ month = 11 then 30
  else 31

/-- Whether there is such a day. -/
def Date.isValid (date : Date) : Bool :=
  1 ≤ date.month && date.month ≤ 12 && 1 ≤ date.day &&
    date.day ≤ daysInMonth date.year date.month

/-- The number of days in 400 years. -/
def daysInEra : Int := 146097

/-- The days from the first day of the first era to the first day of 1970. -/
def eraToEpoch : Int := 719468

/-- The days from the epoch to a date; the year is counted from March on. -/
def Date.toDays (date : Date) : Int :=
  let year := if date.month ≤ 2 then date.year - 1 else date.year
  let era := year / 400
  let yearOfEra := year % 400
  let monthFromMarch := (date.month + 9) % 12
  let dayOfYear := (153 * monthFromMarch + 2) / 5 + date.day - 1
  era * daysInEra + (yearOfEra * 365 + yearOfEra / 4 - yearOfEra / 100 + dayOfYear) - eraToEpoch

/-- The date that is a number of days after the epoch. -/
def Date.ofDays (days : Int) : Date :=
  let shifted := days + eraToEpoch
  let era := shifted / daysInEra
  let dayOfEra := (shifted % daysInEra).toNat
  let yearOfEra := (dayOfEra - dayOfEra / 1460 + dayOfEra / 36524 - dayOfEra / 146096) / 365
  let dayOfYear := dayOfEra - (365 * yearOfEra + yearOfEra / 4 - yearOfEra / 100)
  let monthFromMarch := (5 * dayOfYear + 2) / 153
  let month := if monthFromMarch < 10 then monthFromMarch + 3 else monthFromMarch - 9
  let year := era * 400 + yearOfEra
  { year := if month ≤ 2 then year + 1 else year
    month := month
    day := dayOfYear - (153 * monthFromMarch + 2) / 5 + 1 }

end OrgAccess.Calendar
