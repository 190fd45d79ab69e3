/-!
# Dates

The proleptic Gregorian calendar. Days are numbered from 1 January 1970; `Date.dayNumber` and
`Date.ofDayNumber` go from a date to its number and back. Both count years from March on, so that the
leap day is the last day of its year.
-/

set_option autoImplicit false

namespace WeatherTables

/-- A year, a month from 1 on and a day from 1 on. -/
structure Date where
  year : Int
  month : Nat
  day : Nat
  deriving DecidableEq, Repr

namespace Date

/-- Whether the year has a 29 February. -/
def isLeapYear (year : Int) : Bool :=
  year % 4 == 0 && (year % 100 != 0 || year % 400 == 0)

/-- The number of days of a month. -/
def daysInMonth (year : Int) (month : Nat) : Nat :=
  match month with
  | 2 => if isLeapYear year then 29 else 28
  | 4 => 30
  | 6 => 30
  | 9 => 30
  | 11 => 30
  | _ => 31

/-- The first year that is represented. -/
def earliestYear : Int := -262143

/-- The last year that is represented. -/
def latestYear : Int := 262142

/-- Whether the calendar has the date, in a year that is represented. -/
def isValid (d : Date) : Bool :=
  earliestYear ≤ d.year && d.year ≤ latestYear && 1 ≤ d.month && d.month ≤ 12 && 1 ≤ d.day &&
    d.day ≤ daysInMonth d.year d.month

/-- The number of the day, 0 being 1 January 1970. -/
def dayNumber (d : Date) : Int :=
  let year := if d.month ≤ 2 then d.year - 1 else d.year
  let monthFromMarch : Int := if d.month ≤ 2 then d.month + 9 else d.month - 3
  let dayOfYear := (153 * monthFromMarch + 2) / 5 + d.day - 1
  365 * year + year / 4 - year / 100 + year / 400 + dayOfYear - 719468

/-- The date with the given number. A cycle of 400 years has 146097 days. -/
def ofDayNumber (number : Int) : Date :=
  let fromMarch := number + 719468
  let cycle := fromMarch / 146097
  let dayOfCycle := fromMarch % 146097
  let yearOfCycle :=
    (dayOfCycle - dayOfCycle / 1460 + dayOfCycle / 36524 - dayOfCycle / 146096) / 365
  let dayOfYear := dayOfCycle - (365 * yearOfCycle + yearOfCycle / 4 - yearOfCycle / 100)
  let monthFromMarch := (5 * dayOfYear + 2) / 153
  let day := dayOfYear - (153 * monthFromMarch + 2) / 5 + 1
  let month := if monthFromMarch < 10 then monthFromMarch + 3 else monthFromMarch - 9
  let year := yearOfCycle + cycle * 400
  ⟨if month ≤ 2 then year + 1 else year, month.toNat, day.toNat⟩

end Date

end WeatherTables
