import TableFlow.Json.Record
import TableFlow.Table.Basic
import TableFlow.Transform.Check

/-!
# Aggregation

Seven functions reduce the cells of a group to one cell; none of them looks at empty cells.
The result has one row for each group, or, on demand, keeps the rows of the table and repeats
the result of each group in its rows.
-/

namespace TableFlow

open TableFlow.Json
open TableFlow.Number

/-- What a group of cells is reduced to. -/
inductive AggregateFunction where
  | sum
  | avg
  | count
  | min
  | max
  | first
  | last
  deriving DecidableEq

namespace AggregateFunction

def name : AggregateFunction → String
  | .sum => "sum"
  | .avg => "avg"
  | .count => "count"
  | .min => "min"
  | .max => "max"
  | .first => "first"
  | .last => "last"

instance : Labelled AggregateFunction where
  label := name
  all := [.sum, .avg, .count, .min, .max, .first, .last]

/-- Demand a column that a function can reduce: sums and averages need numbers. -/
def checkInput (function : AggregateFunction) (column : Column) : Except StepError Unit :=
  match function with
  | .sum | .avg =>
      match requireNumeric column (.kind .float) with
      | .error error => .error error
      | .ok _ => .ok ()
  | _ => .ok ()

end AggregateFunction

/-- The running state of a function over the cells of a group. -/
structure AggregateState where
  count : Nat := 0
  integerSum : Option Int64 := none
  floatSum : Option Float := none
  least : Option Cell := none
  greatest : Option Cell := none
  first : Option Cell := none
  last : Option Cell := none

namespace AggregateState

/-- Add a number. The sum stays an integer until the first float. -/
def addNumber (function : AggregateFunction) (state : AggregateState) (cell : Cell) :
    Except StepError AggregateState :=
  match cell, state.floatSum with
  | .integer value, none =>
      match word? ((state.integerSum.getD 0).toInt + value.toInt) with
      | some sum => .ok { state with integerSum := some sum }
      | none => .error (.failed (.sumOverflow function.name))
  | cell, floatSum =>
      let carried := (state.integerSum.map Cell.floatOf).getD 0.0
      let sum := floatSum.getD carried + cell.number?.getD 0.0
      .ok { state with integerSum := none, floatSum := some sum }

/-- Meet one more cell; an empty one is passed over. -/
def update (function : AggregateFunction) (state : AggregateState) (cell : Cell) :
    Except StepError AggregateState :=
  if cell.isNull then .ok state
  else
    let state := { state with count := state.count + 1 }
    match function with
    | .count => .ok state
    | .sum | .avg => state.addNumber function cell
    | .min => .ok { state with least := Cell.keep .lt state.least cell }
    | .max => .ok { state with greatest := Cell.keep .gt state.greatest cell }
    | .first => .ok { state with first := state.first.or (some cell) }
    | .last => .ok { state with last := some cell }

/-- The sum so far, if there is one. -/
def sum? (state : AggregateState) : Option Cell :=
  match state.integerSum, state.floatSum with
  | _, some sum => some (.float sum)
  | some sum, none => some (.integer sum)
  | none, none => none

/-- The result of a function. -/
def finalize (function : AggregateFunction) (state : AggregateState) : Cell :=
  match function with
  | .count => .integer (Int64.ofNat state.count)
  | .sum => state.sum?.getD .null
  | .avg =>
      match state.sum?.bind Cell.number? with
      | some total =>
          if 0 < state.count then .float (total / Float.ofNat state.count) else .null
      | none => .null
  | .min => state.least.getD .null
  | .max => state.greatest.getD .null
  | .first => state.first.getD .null
  | .last => state.last.getD .null

end AggregateState

namespace AggregateFunction

def reduce (function : AggregateFunction) (cells : List Cell) : Except StepError Cell :=
  (cells.foldlM (AggregateState.update function) {}).map (AggregateState.finalize function)

/-- Reduce the cells of some rows of a column. -/
def apply (function : AggregateFunction) (column : Column) (rows : List Nat) :
    Except StepError Cell :=
  function.reduce (rows.map column.cellAt)

end AggregateFunction

/-- A function on some columns, and a name for each result. -/
structure Aggregation where
  columns : List String
  function : AggregateFunction
  newColumns : List String
  deriving BEq

namespace Aggregation

/-- Demand names in pairs. -/
def validate (aggregation : Aggregation) : Except StepError Unit :=
  checkThen (requireNames "columns" aggregation.columns) fun () =>
    if aggregation.columns.length ≠ aggregation.newColumns.length then
      .error (.invalid (.unpairedAggregation aggregation.function.name aggregation.columns.length
        aggregation.newColumns.length))
    else requireEach "newcolumns" aggregation.newColumns

def ofJson? (document : Json) : Option Aggregation :=
  match document.record? ["columns", "aggfunction", "newcolumns"] with
  | some [columns, function, newColumns] => do
      return { columns := ← required texts? columns
               function := ← required choice? function
               newColumns := ← required texts? newColumns }
  | _ => none

/-- An aggregation as a document. -/
def toJson (aggregation : Aggregation) : Json :=
  .object
    [ ("columns", ofTexts aggregation.columns), ("aggfunction", ofChoice aggregation.function),
      ("newcolumns", ofTexts aggregation.newColumns) ]

end Aggregation

def firstRows (groups : List (List Nat)) : List Nat :=
  groups.filterMap List.head?

/-- Aggregate within the groups of some key columns. -/
structure Aggregate where
  keys : List String
  aggregations : List Aggregation
  keepRows : Bool
  deriving BEq

namespace Aggregate

def validate (aggregate : Aggregate) : Except StepError Unit :=
  checkThen (requireEach "on" aggregate.keys) fun () =>
    if aggregate.aggregations.isEmpty then .error (.invalid (.noAggregation "aggregate"))
    else checkAll Aggregation.validate aggregate.aggregations

/-- The results of a function on a column, one for each group. -/
def reduceGroups (table : Table) (groups : List (List Nat)) (function : AggregateFunction)
    (source : String) : Except StepError (List Cell) :=
  match table.column source with
  | .error error => .error error
  | .ok column =>
      match function.checkInput column with
      | .error error => .error error
      | .ok () => groups.mapM (function.apply column)

/-- The result columns of an aggregation, one cell for each group. -/
def resultColumns (table : Table) (groups : List (List Nat)) (aggregation : Aggregation) :
    Except StepError (List Column) :=
  (aggregation.columns.zip aggregation.newColumns).mapM fun (source, target) =>
    match reduceGroups table groups aggregation.function source with
    | .error error => .error error
    | .ok cells => .ok { name := target, cells }

/-- The groups to aggregate. Without keys even a table without rows has one group, unless the
rows of the table are kept. -/
def groups (aggregate : Aggregate) (table : Table) : Except StepError (List (List Nat)) :=
  match table.groupRows aggregate.keys with
  | .error error => .error error
  | .ok groups =>
      if groups.isEmpty && aggregate.keys.isEmpty && !aggregate.keepRows then .ok [[]]
      else .ok groups

/-- Repeat the cell of each group in its rows. -/
def spread (rows : Nat) (groups : List (List Nat)) (cells : List Cell) : List Cell :=
  scatter rows ((groups.zip cells).flatMap fun (group, cell) => group.map fun row => (row, cell))

/-- The aggregated table. -/
def apply (aggregate : Aggregate) (table : Table) : Except StepError Table :=
  match aggregate.groups table with
  | .error error => .error error
  | .ok groups =>
      match aggregate.aggregations.mapM (resultColumns table groups) with
      | .error error => .error error
      | .ok results =>
          if aggregate.keepRows then
            table.withColumns (results.flatten.map fun column =>
              { column with cells := spread table.rowCount groups column.cells })
          else
            match table.columnsOf aggregate.keys with
            | .error error => .error error
            | .ok keys =>
                Table.ofColumns
                  (results.flatten.foldl Table.putColumn
                    (keys.map fun key => key.takeRows (firstRows groups)))

def ofJson? (body : Json) : Option Aggregate :=
  match body.record? ["on", "aggregations", "keepOriginalGranularity"] with
  | some [keys, aggregations, keepRows] => do
      return { keys := ← defaulted [] texts? keys
               aggregations := ← required (list? Aggregation.ofJson?) aggregations
               keepRows := ← defaulted false boolean? keepRows }
  | _ => none

def fields (aggregate : Aggregate) : List (String × Json) :=
  [ ("on", ofTexts aggregate.keys),
    ("aggregations", .array (aggregate.aggregations.map Aggregation.toJson)),
    ("keepOriginalGranularity", .boolean aggregate.keepRows) ]

end Aggregate

end TableFlow
