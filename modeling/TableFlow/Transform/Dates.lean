import TableFlow.Calendar.Pattern
import TableFlow.Json.Record
import TableFlow.Transform.Check

/-!
# Dates as texts and parts of dates

A date column can be written out by a pattern, and parts of its dates can be put into columns of
their own. Parts are integers, except for the first days of periods, which are midnights again.
-/

namespace TableFlow

open TableFlow.Json
open TableFlow.Calendar

/-- Write the dates of a column by a pattern. -/
structure FormatDate where
  column : String
  pattern : String
  deriving BEq

namespace FormatDate

def items (format : FormatDate) : Except StepError (List PatternItem) :=
  match readPattern? format.pattern.toList with
  | some items => .ok items
  | none => .error (.invalid (.badPattern format.pattern))

/-- Demand names and a pattern that can be read. -/
def validate (format : FormatDate) : Except StepError Unit :=
  checkThen (requireName "column" format.column) fun () =>
    checkThen (requireName "format" format.pattern) fun () =>
      match format.items with
      | .error error => .error error
      | .ok _ => .ok ()

/-- The text of an instant; empty if it is missing. -/
def write (items : List PatternItem) : Option Int → Except StepError Cell
  | none => .ok .null
  | some millis =>
      match momentOf millis with
      | .error error => .error error
      | .ok moment =>
          if items.all PatternItem.isPrintable then .ok (.text (showMoment items moment))
          else .error (.crashed .unwritableText)

/-- The table with the texts in place of the dates. -/
def apply (format : FormatDate) (table : Table) : Except StepError Table :=
  match format.items with
  | .error error => .error error
  | .ok items =>
      match table.column format.column with
      | .error error => .error error
      | .ok column =>
          match instantsOf column with
          | .error error => .error error
          | .ok instants =>
              match instants.mapM (write items) with
              | .error error => .error error
              | .ok cells => table.withColumn { name := format.column, cells }

def ofJson? (body : Json) : Option FormatDate :=
  match body.record? ["column", "format"] with
  | some [column, pattern] => do
      return { column := ← required text? column, pattern := ← required text? pattern }
  | _ => none

def fields (format : FormatDate) : List (String × Json) :=
  [("column", .string format.column), ("format", .string format.pattern)]

end FormatDate

inductive DatePart where
  | year
  | month
  | day
  | hour
  | minutes
  | seconds
  | milliseconds
  | quarter
  | week
  | dayOfWeek
  | dayOfYear
  | isoYear
  | isoWeek
  | isoDayOfWeek
  | firstDayOfYear
  | firstDayOfMonth
  | firstDayOfQuarter
  | firstDayOfWeek
  | firstDayOfIsoWeek
  | previousDay
  deriving DecidableEq

instance : Labelled DatePart where
  label
    | .year => "year"
    | .month => "month"
    | .day => "day"
    | .hour => "hour"
    | .minutes => "minutes"
    | .seconds => "seconds"
    | .milliseconds => "milliseconds"
    | .quarter => "quarter"
    | .week => "week"
    | .dayOfWeek => "dayOfWeek"
    | .dayOfYear => "dayOfYear"
    | .isoYear => "isoYear"
    | .isoWeek => "isoWeek"
    | .isoDayOfWeek => "isoDayOfWeek"
    | .firstDayOfYear => "firstDayOfYear"
    | .firstDayOfMonth => "firstDayOfMonth"
    | .firstDayOfQuarter => "firstDayOfQuarter"
    | .firstDayOfWeek => "firstDayOfWeek"
    | .firstDayOfIsoWeek => "firstDayOfIsoWeek"
    | .previousDay => "previousDay"
  all :=
    [ .year, .month, .day, .hour, .minutes, .seconds, .milliseconds, .quarter, .week, .dayOfWeek,
      .dayOfYear, .isoYear, .isoWeek, .isoDayOfWeek, .firstDayOfYear, .firstDayOfMonth,
      .firstDayOfQuarter, .firstDayOfWeek, .firstDayOfIsoWeek, .previousDay ]

/-- An integer of a calendar as a cell. -/
def calendarCell (value : Int) : Cell :=
  .integer (Int64.ofInt value)

/-- The midnight of a day number; empty before the first day of the calendar. -/
def midnightCell (number : Int) : Cell :=
  let millis := number * dayMillis
  if leastInstant ≤ millis then .timestamp (Int64.ofInt millis) else .null

def DatePart.extract (part : DatePart) (moment : Moment) : Cell :=
  let date := moment.date
  let number := date.dayNumber
  match part with
  | .year => calendarCell date.year
  | .month => calendarCell date.month
  | .day => calendarCell date.day
  | .hour => calendarCell moment.hour
  | .minutes => calendarCell moment.minute
  | .seconds => calendarCell moment.second
  | .milliseconds => calendarCell moment.milli
  | .quarter => calendarCell (quarterOf date.month)
  | .week => calendarCell (plainWeek date (daysFromSunday number))
  | .dayOfWeek => calendarCell (daysFromSunday number + 1 : Nat)
  | .dayOfYear => calendarCell date.dayOfYear
  | .isoYear => calendarCell (Calendar.isoWeek number).year
  | .isoWeek => calendarCell (Calendar.isoWeek number).week
  | .isoDayOfWeek => calendarCell (daysFromMonday number + 1 : Nat)
  | .firstDayOfYear => midnightCell { date with month := 1, day := 1 : Date }.dayNumber
  | .firstDayOfMonth => midnightCell { date with day := 1 : Date }.dayNumber
  | .firstDayOfQuarter =>
      midnightCell { date with month := (date.month - 1) / 3 * 3 + 1, day := 1 : Date }.dayNumber
  | .firstDayOfWeek => midnightCell (number - daysFromSunday number)
  | .firstDayOfIsoWeek => midnightCell (number - daysFromMonday number)
  | .previousDay => midnightCell (number - 1)

/-- Put parts of the dates of a column into new columns. -/
structure ExtractDate where
  column : String
  parts : List DatePart
  newColumns : List String
  deriving BEq

namespace ExtractDate

/-- Demand names in pairs with the parts. -/
def validate (extract : ExtractDate) : Except StepError Unit :=
  checkThen (requireName "column" extract.column) fun () =>
    checkThen (requireNames "newColumns" extract.newColumns) fun () =>
      if extract.parts.length ≠ extract.newColumns.length then
        .error (.invalid (.unpairedParts extract.parts.length extract.newColumns.length))
      else .ok ()

/-- The moment of an instant that may be missing. -/
def momentOf? : Option Int → Except StepError (Option Moment)
  | none => .ok none
  | some millis =>
      match momentOf millis with
      | .error error => .error error
      | .ok moment => .ok (some moment)

def partColumn (moments : List (Option Moment)) (part : DatePart) (name : String) : Column :=
  { name
    cells := moments.map fun moment =>
      match moment with
      | some moment => part.extract moment
      | none => .null }

/-- The table with the parts. -/
def apply (extract : ExtractDate) (table : Table) : Except StepError Table :=
  match table.column extract.column with
  | .error error => .error error
  | .ok column =>
      match instantsOf column with
      | .error error => .error error
      | .ok instants =>
          match instants.mapM momentOf? with
          | .error error => .error error
          | .ok moments =>
              table.withColumns ((extract.parts.zip extract.newColumns).map fun (part, name) =>
                partColumn moments part name)

def ofJson? (body : Json) : Option ExtractDate :=
  match body.record? ["column", "dateInfo", "newColumns"] with
  | some [column, parts, newColumns] => do
      return { column := ← required text? column
               parts := ← required (list? choice?) parts
               newColumns := ← required texts? newColumns }
  | _ => none

def fields (extract : ExtractDate) : List (String × Json) :=
  [ ("column", .string extract.column), ("dateInfo", .array (extract.parts.map ofChoice)),
    ("newColumns", ofTexts extract.newColumns) ]

end ExtractDate

end TableFlow
