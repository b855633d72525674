import TableFlow.Cell.Compare
import TableFlow.Error

/-!
# Tables

A table is a list of named columns and a count of rows. In a well-formed table the
names differ and every column has as many cells as the table has rows; a table without
columns may have any number of rows. Every operation here gives a new table and refuses
what would not be well formed.
-/

namespace TableFlow

/-- A named list of cells. -/
structure Column where
  name : String
  cells : List Cell

namespace Column

/-- A column with the same cell in every row. -/
def broadcast (name : String) (cell : Cell) (rows : Nat) : Column :=
  { name, cells := List.replicate rows cell }

/-- The same cells under another name. -/
def renamed (column : Column) (name : String) : Column :=
  { column with name }

/-- The cell of a row; empty for a row that does not exist. -/
def cellAt (column : Column) (row : Nat) : Cell :=
  column.cells.getD row .null

/-- The cells of the given rows, in that order. -/
def takeRows (column : Column) (rows : List Nat) : Column :=
  { column with cells := rows.map column.cellAt }

/-- The kinds of the cells, each once, in order of first appearance. -/
def kinds (column : Column) : List Kind :=
  (column.cells.filterMap Cell.kind?).foldl
    (fun kinds kind => if kinds.contains kind then kinds else kinds ++ [kind]) []

end Column

/-- A list of columns and a count of rows. -/
structure Table where
  columns : List Column
  rowCount : Nat

namespace Table

/-- The table without columns and rows. -/
def empty : Table := { columns := [], rowCount := 0 }

/-- The names of the columns, in order. -/
def names (table : Table) : List String :=
  table.columns.map Column.name

/-- Names differ, and every column has a cell for every row. -/
structure WellFormed (table : Table) : Prop where
  nodup_names : table.names.Nodup
  length_cells : ∀ column ∈ table.columns, column.cells.length = table.rowCount

/-- Refuse the first column that repeats a name or has not `rows` cells. -/
def checkColumns (rows : Nat) : (seen : List String) → List Column → Except StepError Unit
  | _, [] => .ok ()
  | seen, column :: rest =>
      if seen.contains column.name then .error (.invalid (.duplicateColumn column.name))
      else if column.cells.length ≠ rows then
        .error (.invalid (.unequalColumn column.name column.cells.length rows))
      else checkColumns rows (column.name :: seen) rest

/-- The table of some columns; it has as many rows as the first of them. -/
def ofColumns (columns : List Column) : Except StepError Table :=
  let rowCount :=
    match columns with
    | [] => 0
    | column :: _ => column.cells.length
  match checkColumns rowCount [] columns with
  | .error error => .error error
  | .ok () => .ok { columns, rowCount }

/-- The column of a name, if there is one. -/
def column? (table : Table) (name : String) : Option Column :=
  table.columns.find? fun column => column.name == name

def column (table : Table) (name : String) : Except StepError Column :=
  match table.column? name with
  | some column => .ok column
  | none => .error (.missingColumn name)

/-- The columns of several names; the first missing one is reported. -/
def columnsOf (table : Table) (names : List String) : Except StepError (List Column) :=
  names.mapM table.column

def hasColumn (table : Table) (name : String) : Bool :=
  table.columns.any fun column => column.name == name

/-- The position of the column of a name. -/
def columnIndex? (table : Table) (name : String) : Option Nat :=
  table.columns.findIdx? fun column => column.name == name

/-- The cell of a row under a name; empty if there is none. -/
def cellAt (table : Table) (row : Nat) (name : String) : Cell :=
  match table.column? name with
  | some column => column.cellAt row
  | none => .null

/-- The cells of a row, in the order of the columns. -/
def row (table : Table) (index : Nat) : List Cell :=
  table.columns.map fun column => column.cellAt index

/-- Put a column in the place of the one with its name, or at the end. -/
def putColumn : List Column → Column → List Column
  | [], column => [column]
  | first :: rest, column =>
      if first.name = column.name then column :: rest else first :: putColumn rest column

/-- A table with one more column, or another one under a name it has. The column has to
fit a table that has columns already. -/
def withColumn (table : Table) (column : Column) : Except StepError Table :=
  if table.columns ≠ [] ∧ column.cells.length ≠ table.rowCount then
    .error (.invalid (.misfitColumn column.name column.cells.length table.rowCount))
  else ofColumns (putColumn table.columns column)

/-- Add columns one after the other. -/
def withColumns (table : Table) : List Column → Except StepError Table
  | [] => .ok table
  | column :: rest =>
      match table.withColumn column with
      | .error error => .error error
      | .ok next => next.withColumns rest

/-- Drop the first column of a name. -/
def dropColumn (name : String) : List Column → List Column
  | [] => []
  | first :: rest => if first.name = name then rest else first :: dropColumn name rest

/-- A table without a column; the rows stay even when no column is left. -/
def withoutColumn (table : Table) (name : String) : Except StepError Table :=
  if table.hasColumn name then .ok { table with columns := dropColumn name table.columns }
  else .error (.missingColumn name)

/-- Give the first column of a name another one. -/
def renameFirst (old new : String) : List Column → List Column
  | [] => []
  | first :: rest =>
      if first.name = old then first.renamed new :: rest else first :: renameFirst old new rest

/-- A table with a column under another name. -/
def renameColumn (table : Table) (old new : String) : Except StepError Table :=
  if table.hasColumn old then ofColumns (renameFirst old new table.columns)
  else .error (.missingColumn old)

/-- The named columns only, in the given order. -/
def select (table : Table) (names : List String) : Except StepError Table :=
  match table.columnsOf names with
  | .error error => .error error
  | .ok [] => .ok { table with columns := [] }
  | .ok columns => ofColumns columns

/-- The given rows only, in the given order. -/
def takeRows (table : Table) (rows : List Nat) : Table :=
  { columns := table.columns.map fun column => column.takeRows rows, rowCount := rows.length }

end Table

/-- The cells of several tables under a name, one table after the other; a table without such a
column gives empty cells. -/
def stackCells (tables : List Table) (name : String) : List Cell :=
  tables.flatMap fun table =>
    match table.column? name with
    | some column => column.cells
    | none => List.replicate table.rowCount .null

/-! ## Groups of rows -/

/-- Whether two rows of cells are equal cell by cell. -/
def sameKey : List Cell → List Cell → Bool
  | [], [] => true
  | left :: lefts, right :: rights => left.same right && sameKey lefts rights
  | _, _ => false

def keyHashParts (key : List Cell) : List Cell.HashPart :=
  .length key.length :: key.flatMap Cell.hashParts

/-- Put a row into the group of its key, or into a new group at the end. -/
def addToGroup (key : List Cell) (row : Nat) :
    List (List Cell × List Nat) → List (List Cell × List Nat)
  | [] => [(key, [row])]
  | (other, rows) :: rest =>
      if sameKey other key then (other, rows ++ [row]) :: rest
      else (other, rows) :: addToGroup key row rest

def keyAt (columns : List Column) (row : Nat) : List Cell :=
  columns.map fun column => column.cellAt row

/-- Group rows by their cells in some columns. -/
def groupBy (columns : List Column) (rows : List Nat) : List (List Cell × List Nat) :=
  rows.foldl (fun groups row => addToGroup (keyAt columns row) row groups) []

/-- The groups of the rows of a table by some key columns. -/
def Table.groupRows (table : Table) (keys : List String) : Except StepError (List (List Nat)) :=
  match table.columnsOf keys with
  | .error error => .error error
  | .ok [] => .ok (if table.rowCount = 0 then [] else [List.range table.rowCount])
  | .ok columns => .ok ((groupBy columns (List.range table.rowCount)).map Prod.snd)

end TableFlow
