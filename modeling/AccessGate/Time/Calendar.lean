/-!
# The calendar

Days are counted from the first of January of year 1, in the Gregorian calendar extended to all
years.  `dayNumber` and `ofDayNumber` convert between a date and its day number; a week date
names a day by its week-numbering year, its week and its day of the week.
-/

namespace AccessGate

structure CalendarDate where
  year : Nat
  month : Nat
  day : Nat
  deriving DecidableEq, Repr

namespace CalendarDate

/-- Whether a year has a twenty-ninth of February. -/
def isLeap (year : Nat) : Bool :=
  year % 4 == 0 && (year % 100 != 0 || year % 400 == 0)

/-- The number of days before the first of January of a year. -/
def daysBeforeYear (year : Nat) : Nat :=
  let elapsed := year - 1
  elapsed * 365 + elapsed / 4 - elapsed / 100 + elapsed / 400

def monthLengths (year : Nat) : List Nat :=
  [31, if isLeap year then 29 else 28, 31, 30, 31, 30, 31, 31, 30, 31, 30, 31]

/-- The number of days before the first of a month within its year. -/
def daysBeforeMonth (year month : Nat) : Nat :=
  ((monthLengths year).take (month - 1)).foldl (· + ·) 0

/-- Whether a date exists, with a year from 1 to 9999. -/
def isValid (date : CalendarDate) : Bool :=
  1 ≤ date.year && date.year ≤ 9999 && 1 ≤ date.month && date.month ≤ 12 && 1 ≤ date.day &&
    date.day ≤ ((monthLengths date.year)[date.month - 1]?).getD 0

/-- The number of days before a date. -/
def dayNumber (date : CalendarDate) : Nat :=
  daysBeforeYear date.year + daysBeforeMonth date.year date.month + (date.day - 1)

/-- The month and the day of the month of a day of the year, given the lengths of the months that
are left and the number of the first of them. -/
def splitMonths (month day : Nat) : List Nat → Nat × Nat
  | [] => (month, day + 1)
  | length :: lengths =>
      if day < length then (month, day + 1) else splitMonths (month + 1) (day - length) lengths

/-- The year of a day number, looked for from a year that is at most a few years too early. -/
def yearFrom (days : Nat) : (bound : Nat) → (year : Nat) → Nat
  | 0, year => year
  | bound + 1, year =>
      if daysBeforeYear (year + 1) ≤ days then yearFrom days bound (year + 1) else year

def ofDayNumber (days : Nat) : CalendarDate :=
  let year := yearFrom days 3 (max 1 (days * 400 / 146097))
  let (month, day) := splitMonths 1 (days - daysBeforeYear year) (monthLengths year)
  { year, month, day }

/-- The number of days before the Monday of a year's first week, the week that holds the fourth of
January, counted as an integer because that Monday may precede the first of January of year 1. -/
def firstMonday (year : Nat) : Int :=
  let start : Int := daysBeforeYear year
  let weekday := start % 7
  if weekday > 3 then start - weekday + 7 else start - weekday

/-- Whether a year has a fifty-third week. -/
def hasLongYear (year : Nat) : Bool :=
  let weekday := daysBeforeYear year % 7
  weekday == 3 || (weekday == 2 && isLeap year)

/-- The date of a week date, if the week and the weekday exist and the date lies in the years 1 to
9999. -/
def ofWeekDate? (year week weekday : Nat) : Option CalendarDate :=
  if 1 ≤ year && year ≤ 9999 && 1 ≤ week && (week ≤ 52 || week == 53 && hasLongYear year) &&
      1 ≤ weekday && weekday ≤ 7 then
    let days := firstMonday year + 7 * (week - 1) + (weekday - 1)
    if 0 ≤ days && days < daysBeforeYear 10000 then some (ofDayNumber days.toNat) else none
  else none

end CalendarDate

end AccessGate
