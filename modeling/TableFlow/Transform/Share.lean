import TableFlow.Json.Record
import TableFlow.Number.Basic
import TableFlow.Table.Basic
import TableFlow.Transform.Check

/-!
# Shares

The share of each value in the total of its group, as a float. A total of zero gives no shares.
-/

namespace TableFlow

open TableFlow.Json
open TableFlow.Number

/-- The share of each value in the total of its group. -/
structure Share where
  column : String
  groups : List String
  newColumn : Option String
  deriving BEq

namespace Share

def validate (share : Share) : Except StepError Unit :=
  requireName "column" share.column

def outputColumn (share : Share) : String :=
  share.newColumn.getD (share.column ++ "_PCT")

/-- The shares of a group; there are none if the total is zero. -/
def shareGroup (column : Column) (rows : List Nat) : List (Nat × Cell) :=
  let total := sumFloats (rows.filterMap fun row => (column.cellAt row).number?)
  if total == 0.0 then []
  else
    rows.filterMap fun row =>
      (column.cellAt row).number?.map fun value => (row, .float (value / total))

/-- The table with the shares. -/
def apply (share : Share) (table : Table) : Except StepError Table :=
  match table.column share.column with
  | .error error => .error error
  | .ok column =>
      match requireNumeric column .number with
      | .error error => .error error
      | .ok _ =>
          match table.groupRows share.groups with
          | .error error => .error error
          | .ok groups =>
              table.withColumn
                { name := share.outputColumn
                  cells := scatter table.rowCount (groups.flatMap (shareGroup column)) }

def ofJson? (body : Json) : Option Share :=
  match body.record? ["column", "group", "newColumnName"] with
  | some [column, groups, newColumn] => do
      return { column := ← required text? column
               groups := ← defaulted [] texts? groups
               newColumn := ← defaulted none textOrNull? newColumn }
  | _ => none

def fields (share : Share) : List (String × Json) :=
  [("column", .string share.column), ("group", ofTexts share.groups)] ++
    optionalField "newColumnName" share.newColumn

end Share

end TableFlow
