import TableFlow.Json.Record
import TableFlow.Transform.Check

/-!
# Renaming, dropping and choosing columns

The transforms that move columns about and look at no cell.
-/

namespace TableFlow

open TableFlow.Json

/-- Rename columns, one pair of old and new name after the other. -/
structure Rename where
  pairs : List (String × String)
  deriving BEq

namespace Rename

/-- Demand a pair, and names that are not blank. -/
def validate (rename : Rename) : Except StepError Unit :=
  if rename.pairs.isEmpty then .error (.invalid .noRename)
  else
    checkAll (fun (old, new) => checkThen (requireName "toRename" old) fun () =>
      requireName "toRename" new) rename.pairs

/-- Rename one column. A name that is its own new name, or that was renamed before, is left
alone. -/
def applyPair (table : Table) (old new : String) : Except StepError Table :=
  if old = new ∨ (table.hasColumn old = false ∧ table.hasColumn new = true) then .ok table
  else table.renameColumn old new

/-- Rename columns in order. -/
def applyPairs (table : Table) : List (String × String) → Except StepError Table
  | [] => .ok table
  | (old, new) :: rest =>
      match applyPair table old new with
      | .error error => .error error
      | .ok next => applyPairs next rest

/-- The table under new names. -/
def apply (rename : Rename) (table : Table) : Except StepError Table :=
  applyPairs table rename.pairs

def ofJson? (body : Json) : Option Rename :=
  match body.record? ["toRename"] with
  | some [pairs] => do return { pairs := ← required (list? (pair? text?)) pairs }
  | _ => none

def fields (rename : Rename) : List (String × Json) :=
  [("toRename", .array (rename.pairs.map ofPair))]

end Rename

/-- Drop columns. -/
structure Delete where
  columns : List String
  deriving BEq

namespace Delete

def validate (delete : Delete) : Except StepError Unit :=
  requireNames "columns" delete.columns

/-- Drop columns in order. -/
def dropAll (table : Table) : List String → Except StepError Table
  | [] => .ok table
  | name :: rest =>
      match table.withoutColumn name with
      | .error error => .error error
      | .ok next => dropAll next rest

/-- The table without the columns. -/
def apply (delete : Delete) (table : Table) : Except StepError Table :=
  dropAll table delete.columns

def ofJson? (body : Json) : Option Delete :=
  match body.record? ["columns"] with
  | some [columns] => do return { columns := ← required texts? columns }
  | _ => none

def fields (delete : Delete) : List (String × Json) :=
  [("columns", ofTexts delete.columns)]

end Delete

/-- Keep some columns, in a given order. -/
structure Select where
  columns : List String
  deriving BEq

namespace Select

def validate (select : Select) : Except StepError Unit :=
  requireNames "columns" select.columns

/-- The table with the columns only. -/
def apply (select : Select) (table : Table) : Except StepError Table :=
  table.select select.columns

def ofJson? (body : Json) : Option Select :=
  match body.record? ["columns"] with
  | some [columns] => do return { columns := ← required texts? columns }
  | _ => none

def fields (select : Select) : List (String × Json) :=
  [("columns", ofTexts select.columns)]

end Select

/-- Copy a column under another name. -/
structure Duplicate where
  column : String
  newColumn : String
  deriving BEq

namespace Duplicate

/-- Demand both names. -/
def validate (duplicate : Duplicate) : Except StepError Unit :=
  checkThen (requireName "column" duplicate.column) fun () =>
    requireName "newColumnName" duplicate.newColumn

/-- The table with the copy. -/
def apply (duplicate : Duplicate) (table : Table) : Except StepError Table :=
  match table.column duplicate.column with
  | .error error => .error error
  | .ok column => table.withColumn (column.renamed duplicate.newColumn)

def ofJson? (body : Json) : Option Duplicate :=
  match body.record? ["column", "newColumnName"] with
  | some [column, newColumn] => do
      return { column := ← required text? column, newColumn := ← required text? newColumn }
  | _ => none

def fields (duplicate : Duplicate) : List (String × Json) :=
  [("column", .string duplicate.column), ("newColumnName", .string duplicate.newColumn)]

end Duplicate

end TableFlow
