import TableFlow.Json.Record
import TableFlow.Table.Basic
import TableFlow.Transform.Check

/-!
# Running sums

The sum of a column up to each row, started anew in each group. Sums of integers are exact and
fail when they need more than 64 bits; a float anywhere in the column makes all sums floats.
-/

namespace TableFlow

open TableFlow.Json
open TableFlow.Number

/-- The running sum of a column within groups. -/
structure RunningSum where
  column : String
  groups : List String
  newColumn : Option String
  deriving BEq

namespace RunningSum

def validate (running : RunningSum) : Except StepError Unit :=
  requireName "valueColumn" running.column

def outputColumn (running : RunningSum) : String :=
  running.newColumn.getD (running.column ++ "_CUMSUM")

/-- The running sums of integers; empty cells stay empty and add nothing. -/
def sumInts (column : String) : (total : Int) → List Cell → Except StepError (List Cell)
  | _, [] => .ok []
  | total, .integer value :: rest =>
      match word? (total + value.toInt) with
      | none => .error (.failed (.runningSumOverflow column))
      | some sum =>
          match sumInts column sum.toInt rest with
          | .error error => .error error
          | .ok sums => .ok (.integer sum :: sums)
  | total, _ :: rest =>
      match sumInts column total rest with
      | .error error => .error error
      | .ok sums => .ok (.null :: sums)

/-- The running sums of numbers as floats; empty cells stay empty and add nothing. -/
def sumFloats : (total : Float) → List Cell → List Cell
  | _, [] => []
  | total, cell :: rest =>
      match cell.number? with
      | some value => .float (total + value) :: sumFloats (total + value) rest
      | none => .null :: sumFloats total rest

/-- The running sums of a group. -/
def sumGroup (asFloat : Bool) (column : Column) (rows : List Nat) :
    Except StepError (List (Nat × Cell)) :=
  let cells := rows.map column.cellAt
  if asFloat then .ok (rows.zip (sumFloats 0.0 cells))
  else
    match sumInts column.name 0 cells with
    | .error error => .error error
    | .ok sums => .ok (rows.zip sums)

/-- The table with the running sums. They are floats if the column holds any float. -/
def apply (running : RunningSum) (table : Table) : Except StepError Table :=
  match table.column running.column with
  | .error error => .error error
  | .ok column =>
      match requireNumeric column .number with
      | .error error => .error error
      | .ok kinds =>
          match table.groupRows running.groups with
          | .error error => .error error
          | .ok groups =>
              match groups.mapM (sumGroup (kinds.contains .float) column) with
              | .error error => .error error
              | .ok placed =>
                  table.withColumn
                    { name := running.outputColumn
                      cells := scatter table.rowCount placed.flatten }

def ofJson? (body : Json) : Option RunningSum :=
  match body.record? ["valueColumn", "groupby", "newColumn"] with
  | some [column, groups, newColumn] => do
      return { column := ← required text? column
               groups := ← defaulted [] texts? groups
               newColumn := ← defaulted none textOrNull? newColumn }
  | _ => none

def fields (running : RunningSum) : List (String × Json) :=
  [("valueColumn", .string running.column), ("groupby", ofTexts running.groups)] ++
    optionalField "newColumn" running.newColumn

end RunningSum

end TableFlow
