import TableFlow.Json.Record
import TableFlow.Table.Basic
import TableFlow.Transform.Check

/-!
# Greatest and least values

Keeping the rows that hold the greatest or the least value of a column in their group. Ties are
all kept, and a group of empty cells keeps no row.
-/

namespace TableFlow

open TableFlow.Json

/-- Which end of the order is wanted. -/
inductive Side where
  | greatest
  | least
  deriving DecidableEq

/-- How a better cell compares with a worse one. -/
def Side.ordering : Side → Ordering
  | .greatest => .gt
  | .least => .lt

/-- Keep the rows of each group that hold the greatest or least value of a column. -/
structure Extreme where
  column : String
  groups : List String
  deriving BEq

namespace Extreme

def validate (extreme : Extreme) : Except StepError Unit :=
  requireName "column" extreme.column

/-- Demand that all cells compare with the first one that is not empty. -/
def checkComparable (column : Column) : Except StepError Unit :=
  match Cell.filled column.cells with
  | [] => .ok ()
  | first :: rest =>
      checkAll (fun cell =>
        if (first.compare? cell).isSome then .ok ()
        else .error (.incomparable column.name first cell)) rest

/-- The best of some cells: the first one that no later one beats on the way. -/
def best? (side : Side) (cells : List Cell) : Option Cell :=
  (Cell.filled cells).foldl (Cell.keep side.ordering) none

/-- The rows of a group that hold its best value. -/
def bestRows (side : Side) (column : Column) (rows : List Nat) : List Nat :=
  match best? side (rows.map column.cellAt) with
  | none => []
  | some best => rows.filter fun row => (column.cellAt row).compare? best == some .eq

/-- The rows that hold the best value of their group, group by group. -/
def apply (extreme : Extreme) (side : Side) (table : Table) : Except StepError Table :=
  match table.column extreme.column with
  | .error error => .error error
  | .ok column =>
      match checkComparable column with
      | .error error => .error error
      | .ok () =>
          match table.groupRows extreme.groups with
          | .error error => .error error
          | .ok groups => .ok (table.takeRows (groups.flatMap (bestRows side column)))

def ofJson? (body : Json) : Option Extreme :=
  match body.record? ["column", "groups"] with
  | some [column, groups] => do
      return { column := ← required text? column, groups := ← defaulted [] texts? groups }
  | _ => none

def fields (extreme : Extreme) : List (String × Json) :=
  [("column", .string extreme.column), ("groups", ofTexts extreme.groups)]

end Extreme

end TableFlow
