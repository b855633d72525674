import TableFlow.Calendar.Date

/-!
# Instants

An instant is a count of milliseconds since the start of 1970, in universal time. A
`Moment` is the same instant as a date and a time of day; it exists for the instants
inside the range of the calendar.
-/

namespace TableFlow.Calendar

/-- Milliseconds in a day. -/
def dayMillis : Int := 86400000

/-- The first instant of the calendar. -/
def leastInstant : Int := -8334601228800000

/-- The last instant of the calendar. -/
def greatestInstant : Int := 8210266876799999

/-- Whether an instant lies in the calendar. -/
def isRepresentable (millis : Int) : Bool :=
  leastInstant ≤ millis && millis ≤ greatestInstant

/-- A date and a time of day. -/
structure Moment where
  date : Date
  hour : Nat
  minute : Nat
  second : Nat
  milli : Nat
  deriving DecidableEq

namespace Moment

/-- The milliseconds since midnight. -/
def millisOfDay (moment : Moment) : Nat :=
  ((moment.hour * 60 + moment.minute) * 60 + moment.second) * 1000 + moment.milli

/-- The instant of a moment. -/
def millis (moment : Moment) : Int :=
  moment.date.dayNumber * dayMillis + moment.millisOfDay

/-- The moment of an instant, without regard to the range of the calendar. -/
def ofMillis (millis : Int) : Moment :=
  let rest := (millis % dayMillis).toNat
  { date := Date.ofDayNumber (millis / dayMillis)
    hour := rest / 3600000
    minute := rest / 60000 % 60
    second := rest / 1000 % 60
    milli := rest % 1000 }

/-- The moment of an instant in the calendar. -/
def ofMillis? (millis : Int) : Option Moment :=
  if isRepresentable millis then some (ofMillis millis) else none

end Moment

/-- The first instant of a date. -/
def Date.midnight (date : Date) : Int :=
  date.dayNumber * dayMillis

/-- An instant some days earlier, if it still lies in the calendar. -/
def daysBefore? (millis : Int) (days : Nat) : Option Int :=
  let earlier := millis - days * dayMillis
  if leastInstant ≤ earlier then some earlier else none

/-- An instant some months earlier at the same time of day, if it still lies in the
calendar. -/
def monthsBefore? (millis : Int) (months : Nat) : Option Int :=
  let moment := Moment.ofMillis millis
  let earlier := { moment with date := moment.date.monthsBefore months }
  if earlier.date.isValid then some earlier.millis else none

end TableFlow.Calendar
