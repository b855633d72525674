/-!
# Calendar dates

The proleptic Gregorian calendar. A date is a year, a month and a day, and days are
also counted from the first of January 1970; `Date.dayNumber` and `Date.ofDayNumber`
go back and forth. The calendar covers a fixed range of years.
-/

namespace TableFlow.Calendar

/-- A date of the proleptic Gregorian calendar; the year before year 1 is year 0. -/
structure Date where
  year : Int
  month : Nat
  day : Nat
  deriving DecidableEq

/-- The first year of the calendar. -/
def leastYear : Int := -262143

/-- The last year of the calendar. -/
def greatestYear : Int := 262142

/-- Whether a year has a 29th of February. -/
def isLeap (year : Int) : Bool :=
  year % 4 = 0 && (year % 100 ≠ 0 || year % 400 = 0)

def monthLengths (year : Int) : List Nat :=
  [31, if isLeap year then 29 else 28, 31, 30, 31, 30, 31, 31, 30, 31, 30, 31]

/-- The length of a month, counted from one. -/
def monthLength (year : Int) (month : Nat) : Nat :=
  (monthLengths year).getD (month - 1) 0

/-- The days of a year before a month, counted from one. -/
def daysBeforeMonth (year : Int) (month : Nat) : Nat :=
  ((monthLengths year).take (month - 1)).foldr (· + ·) 0

/-- The days from the start of year 1 to the start of a year. -/
def daysBeforeYear (year : Int) : Int :=
  let past := year - 1
  365 * past + past / 4 - past / 100 + past / 400

/-- The days from the start of year 1 to the start of 1970. -/
def epochOffset : Int := 719162

/-- The year that holds a day counted from the start of year 1. The average length of
a year gives a guess, which is at most one year off. -/
def yearOfDay (days : Int) : Int :=
  let guess := days * 400 / 146097 + 1
  if days < daysBeforeYear guess then guess - 1
  else if daysBeforeYear (guess + 1) ≤ days then guess + 1
  else guess

/-- Split a day of the year, counted from zero, into month and day, counted from one. -/
def splitDays : List Nat → Nat → Nat × Nat
  | [], days => (1, days + 1)
  | length :: rest, days =>
      if days < length then (1, days + 1)
      else
        let (month, day) := splitDays rest (days - length)
        (month + 1, day)

namespace Date

/-- Whether a date exists in the calendar. -/
def isValid (date : Date) : Bool :=
  leastYear ≤ date.year && date.year ≤ greatestYear && 1 ≤ date.month && date.month ≤ 12 &&
    1 ≤ date.day && date.day ≤ monthLength date.year date.month

/-- The day of the year, counted from one. -/
def dayOfYear (date : Date) : Nat :=
  daysBeforeMonth date.year date.month + date.day

/-- Days since the first of January 1970. -/
def dayNumber (date : Date) : Int :=
  daysBeforeYear date.year + (date.dayOfYear : Int) - 1 - epochOffset

/-- The date a number of days after the first of January 1970. -/
def ofDayNumber (number : Int) : Date :=
  let days := number + epochOffset
  let year := yearOfDay days
  let (month, day) := splitDays (monthLengths year) (days - daysBeforeYear year).toNat
  { year, month, day }

/-- Months since the start of year 0. -/
def monthIndex (date : Date) : Int :=
  12 * date.year + date.month - 1

/-- The date some months earlier; a day that the target month lacks becomes its last
day. -/
def monthsBefore (date : Date) (months : Nat) : Date :=
  let index := date.monthIndex - months
  let year := index / 12
  let month := (index % 12).toNat + 1
  { year, month, day := min date.day (monthLength year month) }

end Date

/-! ## Weeks -/

/-- Days since the last Monday, for a day number. -/
def daysFromMonday (number : Int) : Nat :=
  ((number + 3) % 7).toNat

/-- Days since the last Sunday, for a day number. -/
def daysFromSunday (number : Int) : Nat :=
  ((number + 4) % 7).toNat

/-- A year and a week of it. -/
structure IsoWeek where
  year : Int
  week : Nat
  deriving DecidableEq

/-- The ISO week of a day number. -/
def isoWeek (number : Int) : IsoWeek :=
  let thursday := Date.ofDayNumber (number - daysFromMonday number + 3)
  { year := thursday.year, week := (thursday.dayOfYear - 1) / 7 + 1 }

/-- The week of the year of a date that lies `sinceStart` days after the start of its
week. -/
def plainWeek (date : Date) (sinceStart : Nat) : Nat :=
  (date.dayOfYear + 6 - sinceStart) / 7

end TableFlow.Calendar
