import TableFlow.Transform.Aggregate

/-!
# Pivots

A pivot has a row for each group of its index columns and a column for each value of the pivoted
column, named by the text of the value, and aggregates the rows where the two meet.
-/

namespace TableFlow

open TableFlow.Json

/-- Turn the values of a column into columns. -/
structure Pivot where
  index : List String
  column : String
  value : String
  function : AggregateFunction
  deriving BEq

namespace Pivot

def validate (pivot : Pivot) : Except StepError Unit :=
  checkThen (requireNames "index" pivot.index) fun () =>
    checkThen (requireName "columnToPivot" pivot.column) fun () =>
      requireName "valueColumn" pivot.value

/-- The different cells of a column in order of first appearance, without empty ones. -/
def categories (cells : List Cell) : List Cell :=
  cells.foldl
    (fun found cell =>
      if cell.isNull || found.any (fun other => other.same cell) then found else found ++ [cell]) []

/-- The result for a group and a category; empty if the group has no such row. -/
def cellFor (pivot : Pivot) (column values : Column) (rows : List Nat) (category : Cell) :
    Except StepError Cell :=
  match rows.filter fun row => category.same (column.cellAt row) with
  | [] => .ok .null
  | rows => pivot.function.apply values rows

/-- The columns of some categories, from the results of each group. -/
def spreadColumns : List Cell → List (List Cell) → List Column
  | [], _ => []
  | category :: rest, results =>
      { name := category.render, cells := results.filterMap List.head? } ::
        spreadColumns rest (results.map List.tail)

/-- The pivoted table: a row for each group of the index, and a column for each category. -/
def apply (pivot : Pivot) (table : Table) : Except StepError Table :=
  match table.column pivot.column with
  | .error error => .error error
  | .ok column =>
      match table.column pivot.value with
      | .error error => .error error
      | .ok values =>
          match pivot.function.checkInput values with
          | .error error => .error error
          | .ok () =>
              match table.groupRows pivot.index with
              | .error error => .error error
              | .ok groups =>
                  let categories := categories column.cells
                  match groups.mapM fun rows =>
                      categories.mapM (pivot.cellFor column values rows) with
                  | .error error => .error error
                  | .ok results =>
                      match table.columnsOf pivot.index with
                      | .error error => .error error
                      | .ok keys =>
                          Table.ofColumns
                            ((keys.map fun key => key.takeRows (firstRows groups)) ++
                              spreadColumns categories results)

def ofJson? (body : Json) : Option Pivot :=
  match body.record? ["index", "columnToPivot", "valueColumn", "aggFunction"] with
  | some [index, column, value, function] => do
      return { index := ← required texts? index
               column := ← required text? column
               value := ← required text? value
               function := ← required choice? function }
  | _ => none

def fields (pivot : Pivot) : List (String × Json) :=
  [ ("index", ofTexts pivot.index), ("columnToPivot", .string pivot.column),
    ("valueColumn", .string pivot.value), ("aggFunction", ofChoice pivot.function) ]

end Pivot

end TableFlow
