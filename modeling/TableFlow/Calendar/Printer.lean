import TableFlow.Calendar.Date
import TableFlow.Calendar.Instant
import TableFlow.Calendar.Pattern
import TableFlow.Number.Basic

/-!
# Printing instants

What each item of a pattern shows for a moment. Years have four digits at least, and
a sign when they have more or are negative; widths count the sign. All offsets from
universal time are zero.
-/

namespace TableFlow.Calendar

open TableFlow.Number

/-- Fill a text up to a width from the left. -/
def fill (char : Char) (width : Nat) (text : List Char) : List Char :=
  List.replicate (width - text.length) char ++ text

/-- An integer of a least width. The sign is always shown if `signed`. -/
def padInt (padding : Padding) (width : Nat) (signed : Bool) (value : Int) : List Char :=
  let sign := if value < 0 then ['-'] else if signed then ['+'] else []
  let digits := Nat.toDigits 10 value.natAbs
  match padding with
  | .none => sign ++ digits
  | .zeros => sign ++ fill '0' (width - sign.length) digits
  | .blanks => fill ' ' width (sign ++ digits)

/-- A number of two digits. The first digit counts tens, and runs on past the nine in
the order of characters. -/
def padTwo (padding : Padding) (value : Nat) : List Char :=
  let ones := Nat.digitChar (value % 10)
  match value / 10, padding with
  | 0, .none => [ones]
  | 0, .blanks => [' ', ones]
  | tens, _ => [Char.ofNat ('0'.toNat + tens), ones]

/-- A year: four digits, and a sign outside the years of four digits. -/
def padYear (padding : Padding) (year : Int) : List Char :=
  if 0 ≤ year ∧ year ≤ 9999 then padInt padding 4 false year else padInt padding 5 true year

/-- The hour on a dial of twelve. -/
def hourOfHalf (hour : Nat) : Nat :=
  if hour % 12 = 0 then 12 else hour % 12

def quarterOf (month : Nat) : Nat :=
  (month - 1) / 3 + 1

/-- What a number of a pattern shows. -/
def NumberPart.print (part : NumberPart) (padding : Padding) (moment : Moment) : List Char :=
  let date := moment.date
  let number := date.dayNumber
  match part with
  | .year => padYear padding date.year
  | .century => padTwo padding (date.year / 100 % 256).toNat
  | .yearOfCentury => padTwo padding (date.year % 100).toNat
  | .isoYear => padYear padding (Calendar.isoWeek number).year
  | .isoYearOfCentury => padTwo padding ((Calendar.isoWeek number).year % 100).toNat
  | .quarter => [Nat.digitChar (quarterOf date.month)]
  | .month => padTwo padding date.month
  | .day => padTwo padding date.day
  | .weekFromSunday => padTwo padding (plainWeek date (Calendar.daysFromSunday number))
  | .weekFromMonday => padTwo padding (plainWeek date (Calendar.daysFromMonday number))
  | .isoWeek => padTwo padding (Calendar.isoWeek number).week
  | .daysFromSunday => [Nat.digitChar (Calendar.daysFromSunday number)]
  | .dayFromMonday => [Nat.digitChar (Calendar.daysFromMonday number + 1)]
  | .dayOfYear => padInt padding 3 false date.dayOfYear
  | .hour => padTwo padding moment.hour
  | .hourOfHalf => padTwo padding (Calendar.hourOfHalf moment.hour)
  | .minute => padTwo padding moment.minute
  | .second => padTwo padding moment.second
  | .nanosecond => padInt padding 9 false (moment.milli * 1000000 : Nat)
  | .epochSecond => padInt padding 9 false (moment.millis / 1000)

def monthNames : List String :=
  ["January", "February", "March", "April", "May", "June", "July", "August", "September",
   "October", "November", "December"]

/-- The names of the days of the week, from Sunday. -/
def weekdayNames : List String :=
  ["Sunday", "Monday", "Tuesday", "Wednesday", "Thursday", "Friday", "Saturday"]

/-- The name of a month, counted from one. -/
def monthName (month : Nat) : List Char :=
  (monthNames.getD (month - 1) "").toList

/-- The name of a day of the week, counted from Sunday. -/
def weekdayName (day : Nat) : List Char :=
  (weekdayNames.getD day "").toList

/-- The offset of universal time. -/
def OffsetStyle.print : OffsetStyle → List Char
  | .compact => "+0000".toList
  | .colon => "+00:00".toList
  | .seconds => "+00:00:00".toList
  | .hours => "+00".toList
  | .permissive => []

/-- What a named part of a pattern shows. -/
def NamedPart.print (part : NamedPart) (moment : Moment) : List Char :=
  let number := moment.date.dayNumber
  match part with
  | .shortMonth => (monthName moment.date.month).take 3
  | .longMonth => monthName moment.date.month
  | .shortWeekday => (weekdayName (daysFromSunday number)).take 3
  | .longWeekday => weekdayName (daysFromSunday number)
  | .lowerHalf => (if moment.hour < 12 then "am" else "pm").toList
  | .upperHalf => (if moment.hour < 12 then "AM" else "PM").toList
  | .fraction =>
      if moment.milli = 0 then [] else '.' :: fill '0' 3 (Nat.toDigits 10 moment.milli)
  | .fractionDigits count point =>
      (if point then ['.'] else []) ++ fill '0' 3 (Nat.toDigits 10 moment.milli) ++
        List.replicate (count - 3) '0'
  | .zone => "UTC".toList
  | .offset style => style.print

/-- What an item of a pattern shows. -/
def PatternItem.print (item : PatternItem) (moment : Moment) : List Char :=
  match item with
  | .literal char => [char]
  | .number part padding => part.print padding moment
  | .named part => part.print moment

/-- Whether an item can be printed; an offset that is only to be read cannot. -/
def PatternItem.isPrintable : PatternItem → Bool
  | .named (.offset .permissive) => false
  | _ => true

def showMoment (items : List PatternItem) (moment : Moment) : String :=
  String.ofList (items.flatMap fun item => item.print moment)

/-- Date and time with blanks between, to the second. -/
def timestampItems : List PatternItem :=
  PatternItem.dashedDate ++ [.literal ' '] ++ PatternItem.fullTime

/-- The text of an instant: date and time, or the bare count of milliseconds for an
instant outside the calendar. -/
def instantText (millis : Int) : String :=
  match Moment.ofMillis? millis with
  | some moment => showMoment timestampItems moment
  | none => intText millis

end TableFlow.Calendar
