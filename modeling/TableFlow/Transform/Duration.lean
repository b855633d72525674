import TableFlow.Json.Record
import TableFlow.Transform.Check

/-!
# Durations

The time between two date columns, as a float in a chosen unit.
-/

namespace TableFlow

open TableFlow.Json
open TableFlow.Number

inductive TimeUnit where
  | seconds
  | minutes
  | hours
  | days
  deriving DecidableEq

/-- The length of a unit in milliseconds. -/
def TimeUnit.millis : TimeUnit → Float
  | .seconds => 1000.0
  | .minutes => 60000.0
  | .hours => 3600000.0
  | .days => 86400000.0

instance : Labelled TimeUnit where
  label
    | .seconds => "seconds"
    | .minutes => "minutes"
    | .hours => "hours"
    | .days => "days"
  all := [.seconds, .minutes, .hours, .days]

/-- The time from one date to another. -/
structure Duration where
  newColumn : String
  start : String
  finish : String
  unit : TimeUnit
  deriving BEq

namespace Duration

def validate (duration : Duration) : Except StepError Unit :=
  checkThen (requireName "newColumnName" duration.newColumn) fun () =>
    checkThen (requireName "startDateColumn" duration.start) fun () =>
      requireName "endDateColumn" duration.finish

/-- The time between two instants; empty if one of them is missing. -/
def between (unit : TimeUnit) (instants : Option Int × Option Int) : Except StepError Cell :=
  match instants with
  | (some start, some finish) =>
      match word? (finish - start) with
      | some elapsed => .ok (.float (Cell.floatOf elapsed / unit.millis))
      | none => .error (.failed (.durationOverflow start finish))
  | _ => .ok .null

/-- The instants of the column of a name. -/
def instants (table : Table) (name : String) : Except StepError (List (Option Int)) :=
  match table.column name with
  | .error error => .error error
  | .ok column => instantsOf column

def apply (duration : Duration) (table : Table) : Except StepError Table :=
  match instants table duration.start with
  | .error error => .error error
  | .ok starts =>
      match instants table duration.finish with
      | .error error => .error error
      | .ok finishes =>
          match (starts.zip finishes).mapM (between duration.unit) with
          | .error error => .error error
          | .ok cells => table.withColumn { name := duration.newColumn, cells }

def ofJson? (body : Json) : Option Duration :=
  match body.record? ["newColumnName", "startDateColumn", "endDateColumn", "durationIn"] with
  | some [newColumn, start, finish, unit] => do
      return { newColumn := ← required text? newColumn
               start := ← required text? start
               finish := ← required text? finish
               unit := ← required choice? unit }
  | _ => none

def fields (duration : Duration) : List (String × Json) :=
  [ ("newColumnName", .string duration.newColumn), ("startDateColumn", .string duration.start),
    ("endDateColumn", .string duration.finish), ("durationIn", ofChoice duration.unit) ]

end Duration

end TableFlow
