import TableFlow.Cell.Convert
import TableFlow.Text.Case
import TableFlow.Transform.Check

/-!
# Changing cells one by one

The transforms that compute each cell of a column from cells of the same row: conversion,
concatenation, a constant text, change of case, replacement of values and filling of empty
cells.
-/

namespace TableFlow

open TableFlow.Json

instance : Labelled Conversion where
  label
    | .integer => "integer"
    | .float => "float"
    | .text => "text"
    | .date => "date"
    | .boolean => "boolean"
  all := [.integer, .float, .text, .date, .boolean]

/-- Update some columns of a table, each from its cells in the table as it was at the start.
A column may be left as it is. -/
def updateColumns (source : Table) (update : Column → Option Column) (table : Table) :
    List String → Except StepError Table
  | [] => .ok table
  | name :: rest =>
      match source.column name with
      | .error error => .error error
      | .ok column =>
          match update column with
          | none => updateColumns source update table rest
          | some column =>
              match table.withColumn column with
              | .error error => .error error
              | .ok next => updateColumns source update next rest

/-- Convert the cells of some columns. -/
structure Convert where
  columns : List String
  conversion : Conversion
  deriving BEq

namespace Convert

def validate (convert : Convert) : Except StepError Unit :=
  requireNames "columns" convert.columns

/-- The table with converted columns. -/
def apply (convert : Convert) (table : Table) : Except StepError Table :=
  updateColumns table
    (fun column => some { column with cells := column.cells.map (Cell.convert convert.conversion) })
    table convert.columns

def ofJson? (body : Json) : Option Convert :=
  match body.record? ["columns", "dataType"] with
  | some [columns, conversion] => do
      return { columns := ← required texts? columns, conversion := ← required choice? conversion }
  | _ => none

def fields (convert : Convert) : List (String × Json) :=
  [("columns", ofTexts convert.columns), ("dataType", ofChoice convert.conversion)]

end Convert

/-- Join the texts of some columns with a separator. -/
structure Concatenate where
  columns : List String
  separator : String
  newColumn : String
  deriving BEq

namespace Concatenate

def validate (concatenate : Concatenate) : Except StepError Unit :=
  checkThen (requireNames "columns" concatenate.columns) fun () =>
    requireName "newColumnName" concatenate.newColumn

/-- The table with the joined texts; empty cells have an empty text. -/
def apply (concatenate : Concatenate) (table : Table) : Except StepError Table :=
  match table.columnsOf concatenate.columns with
  | .error error => .error error
  | .ok columns =>
      let cells := (List.range table.rowCount).map fun row =>
        Cell.text (concatenate.separator.intercalate
          (columns.map fun column => (column.cellAt row).render))
      table.withColumn { name := concatenate.newColumn, cells }

def ofJson? (body : Json) : Option Concatenate :=
  match body.record? ["columns", "separator", "newColumnName"] with
  | some [columns, separator, newColumn] => do
      return { columns := ← required texts? columns
               separator := ← defaulted "" text? separator
               newColumn := ← required text? newColumn }
  | _ => none

def fields (concatenate : Concatenate) : List (String × Json) :=
  [ ("columns", ofTexts concatenate.columns), ("separator", .string concatenate.separator),
    ("newColumnName", .string concatenate.newColumn) ]

end Concatenate

/-- A column with the same text in every row. -/
structure ConstantText where
  newColumn : String
  text : String
  deriving BEq

namespace ConstantText

def validate (constant : ConstantText) : Except StepError Unit :=
  requireName "newColumn" constant.newColumn

def apply (constant : ConstantText) (table : Table) : Except StepError Table :=
  table.withColumn (.broadcast constant.newColumn (.text constant.text) table.rowCount)

def ofJson? (body : Json) : Option ConstantText :=
  match body.record? ["newColumn", "text"] with
  | some [newColumn, text] => do
      return { newColumn := ← required text? newColumn, text := ← required text? text }
  | _ => none

def fields (constant : ConstantText) : List (String × Json) :=
  [("newColumn", .string constant.newColumn), ("text", .string constant.text)]

end ConstantText

/-- Lower or upper case. -/
inductive LetterCase where
  | lower
  | upper
  deriving DecidableEq

/-- A text in a case. -/
def LetterCase.change : LetterCase → String → String
  | .lower, text => Text.toLower text
  | .upper, text => Text.toUpper text

/-- Change the case of a text column. -/
structure ChangeCase where
  column : String
  deriving BEq

namespace ChangeCase

def validate (change : ChangeCase) : Except StepError Unit :=
  requireName "column" change.column

/-- Change the case of a cell that holds text. -/
def changeCell (column : String) (letterCase : LetterCase) (cell : Cell) : Except StepError Cell :=
  match cell with
  | .text value => .ok (.text (letterCase.change value))
  | .null => .ok .null
  | .boolean _ => .error (.mismatch column (.kind .text) .boolean)
  | .integer _ => .error (.mismatch column (.kind .text) .integer)
  | .float _ => .error (.mismatch column (.kind .text) .float)
  | .timestamp _ => .error (.mismatch column (.kind .text) .timestamp)

/-- The table with the column in a case. -/
def apply (change : ChangeCase) (letterCase : LetterCase) (table : Table) :
    Except StepError Table :=
  match table.column change.column with
  | .error error => .error error
  | .ok column =>
      match column.cells.mapM (changeCell change.column letterCase) with
      | .error error => .error error
      | .ok cells => table.withColumn { name := change.column, cells }

def ofJson? (body : Json) : Option ChangeCase :=
  match body.record? ["column"] with
  | some [column] => do return { column := ← required text? column }
  | _ => none

def fields (change : ChangeCase) : List (String × Json) :=
  [("column", .string change.column)]

end ChangeCase

/-- Replace values of a column; the first pair whose old value is the cell decides. -/
structure Replace where
  column : String
  pairs : List (Cell × Cell)
  deriving BEq

namespace Replace

/-- Demand a name and a pair. -/
def validate (replace : Replace) : Except StepError Unit :=
  checkThen (requireName "searchColumn" replace.column) fun () =>
    if replace.pairs.isEmpty then .error (.invalid .noReplacement) else .ok ()

/-- The cell in place of a cell. -/
def replaceCell (pairs : List (Cell × Cell)) (cell : Cell) : Cell :=
  match pairs.find? fun pair => pair.1.same cell with
  | some pair => pair.2
  | none => cell

/-- The table with replaced values. -/
def apply (replace : Replace) (table : Table) : Except StepError Table :=
  match table.column replace.column with
  | .error error => .error error
  | .ok column =>
      table.withColumn
        { name := replace.column, cells := column.cells.map (replaceCell replace.pairs) }

def ofJson? (body : Json) : Option Replace :=
  match body.record? ["searchColumn", "toReplace"] with
  | some [column, pairs] => do
      return { column := ← required text? column
               pairs := ← required (list? (pair? Cell.ofJson?)) pairs }
  | _ => none

def fields (replace : Replace) : List (String × Json) :=
  [ ("searchColumn", .string replace.column),
    ("toReplace", .array (replace.pairs.map fun (old, new) => .array [old.toJson, new.toJson])) ]

end Replace

/-- Fill the empty cells of some columns with a value. -/
structure FillNull where
  columns : List String
  value : Cell
  deriving BEq

namespace FillNull

/-- Demand names and a value. -/
def validate (fill : FillNull) : Except StepError Unit :=
  checkThen (requireNames "columns" fill.columns) fun () =>
    if fill.value.isNull then .error (.invalid .nullFill) else .ok ()

/-- A column with its empty cells filled; none if it has no empty cell. -/
def fillColumn (value : Cell) (column : Column) : Option Column :=
  if column.cells.any Cell.isNull then
    some { column with cells := column.cells.map fun cell => if cell.isNull then value else cell }
  else none

/-- The table with filled columns. -/
def apply (fill : FillNull) (table : Table) : Except StepError Table :=
  updateColumns table (fillColumn fill.value) table fill.columns

def ofJson? (body : Json) : Option FillNull :=
  match body.record? ["columns", "value"] with
  | some [columns, value] => do
      return { columns := ← required texts? columns, value := ← required Cell.ofJson? value }
  | _ => none

def fields (fill : FillNull) : List (String × Json) :=
  [("columns", ofTexts fill.columns), ("value", fill.value.toJson)]

end FillNull

end TableFlow
