import TableFlow.Json.Record
import TableFlow.Table.Basic

/-!
# Joins and stacks of tables

A join matches the rows of a left table with the rows of a right table whose key cells are equal;
an empty key cell matches nothing. An inner join keeps the matching pairs, a left join also the left
rows without a match, and an anti-join only those. Right columns whose names are taken get a suffix.

Appended tables are stacked in order. The result has the columns of all of them, in order of first
appearance.
-/

namespace TableFlow

open TableFlow.Json

inductive JoinKind where
  | left
  | inner
  | anti
  deriving DecidableEq

instance : Labelled JoinKind where
  label
    | .left => "left"
    | .inner => "inner"
    | .anti => "left outer"
  all := [.left, .inner, .anti]

/-- The key of a row, unless a cell of it is empty. -/
def fullKey? (columns : List Column) (row : Nat) : Option (List Cell) :=
  let key := keyAt columns row
  if key.any Cell.isNull then none else some key

/-- The rows of a table by their keys; rows whose key has an empty cell are left out. -/
def indexRows (columns : List Column) (rows : List Nat) : List (List Cell × List Nat) :=
  rows.foldl
    (fun index row =>
      match fullKey? columns row with
      | some key => addToGroup key row index
      | none => index)
    []

/-- The rows that an index has under a key. -/
def rowsUnder (key : List Cell) : List (List Cell × List Nat) → List Nat
  | [] => []
  | (other, rows) :: rest => if sameKey other key then rows else rowsUnder key rest

/-- The pairs of a left row and a right row, if any, that a left row contributes. -/
def JoinKind.pairs (kind : JoinKind) (row : Nat) (found : List Nat) : List (Nat × Option Nat) :=
  match kind, found with
  | .left, [] => [(row, none)]
  | .anti, [] => [(row, none)]
  | .inner, [] => []
  | .anti, _ => []
  | _, found => found.map fun right => (row, some right)

/-- All pairs of a join, in the order of the left rows. Right rows are looked up in an index. -/
def joinPairs (kind : JoinKind) (leftKeys rightKeys : List Column) (leftRows rightRows : Nat) :
    List (Nat × Option Nat) :=
  let index := indexRows rightKeys (List.range rightRows)
  (List.range leftRows).flatMap fun row =>
    match fullKey? leftKeys row with
    | some key => kind.pairs row (rowsUnder key index)
    | none => kind.pairs row []

/-- The suffix of a right column whose name is taken. -/
def rightSuffix : String := "_right"

/-- A name with the fewest suffixes that make it differ from the names taken. Each suffix gives a
longer name, so one more than there are names always suffices. -/
def freeName (taken : List String) : (tries : Nat) → String → String
  | 0, name => name
  | tries + 1, name =>
      if taken.contains name then freeName taken tries (name ++ rightSuffix) else name

/-- A right column in the rows of a join. -/
def joinedCells (column : Column) (pairs : List (Nat × Option Nat)) : List Cell :=
  pairs.map fun (_, right) =>
    match right with
    | some row => column.cellAt row
    | none => .null

/-- Add right columns under free names. -/
def addRightColumns (pairs : List (Nat × Option Nat)) (table : Table) :
    List Column → Except StepError Table
  | [] => .ok table
  | column :: rest =>
      let name := freeName table.names (table.columns.length + 1) column.name
      match table.withColumn { name, cells := joinedCells column pairs } with
      | .error error => .error error
      | .ok next => addRightColumns pairs next rest

/-- The join of two tables on pairs of a left and a right key column. A key that has the same name
on both sides appears once. -/
def joinTables (kind : JoinKind) (keys : List (String × String)) (left right : Table) :
    Except StepError Table :=
  match left.columnsOf (keys.map Prod.fst) with
  | .error error => .error error
  | .ok leftKeys =>
      match right.columnsOf (keys.map Prod.snd) with
      | .error error => .error error
      | .ok rightKeys =>
          let pairs := joinPairs kind leftKeys rightKeys left.rowCount right.rowCount
          let base := left.takeRows (pairs.map Prod.fst)
          if kind = .anti then .ok base
          else
            addRightColumns pairs base
              (right.columns.filter fun column =>
                !keys.any fun (leftKey, rightKey) =>
                  leftKey == rightKey && rightKey == column.name)

/-! ## Appending -/

/-- Add names to the ones already met, each once. -/
def addNames (met : List String) (names : List String) : List String :=
  names.foldl (fun met name => if met.contains name then met else met ++ [name]) met

/-- The names of the columns of some tables, in order of first appearance. -/
def stackedNames (tables : List Table) : List String :=
  tables.foldl (fun met table => addNames met table.names) []

/-- The tables put one under the other. -/
def appendTables (tables : List Table) : Except StepError Table :=
  Table.ofColumns ((stackedNames tables).map fun name => { name, cells := stackCells tables name })

end TableFlow
