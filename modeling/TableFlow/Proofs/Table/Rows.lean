import TableFlow.Proofs.General
import TableFlow.Table.Basic

/-!
# Rows of tables

What is computed for every row of a table is a list with one entry for each row, in the order of the
rows.  Such a list is the map of a function over the numbers of the rows.

Tables put one under the other keep their rows.  A table that lacks a column has as many empty cells
there as it has rows, so the rows of the tables below it start at the same place in every column.
-/

namespace TableFlow

theorem Column.cellAt_map {α : Type} {items : List α} {row : Nat} {item : α}
    (atRow : items[row]? = some item) (name : String) (value : α → Cell) :
    (Column.mk name (items.map value)).cellAt row = value item := by
  rw [cellAt, List.getD_eq_getElem?_getD, List.getElem?_map, atRow, Option.map_some,
    Option.getD_some]

/-- The cells of a column are its cells in the rows, one after the other. -/
theorem Column.cells_eq_map_cellAt {column : Column} {rows : Nat}
    (length : column.cells.length = rows) :
    column.cells = (List.range rows).map column.cellAt := by
  apply List.ext_getElem
  · simp [length]
  · intro row bound _
    simp [cellAt, List.getD_eq_getElem?_getD, List.getElem?_eq_getElem bound]

namespace Table

variable {table : Table} {name : String} {column : Column}

theorem column_eq_ok_iff : table.column name = .ok column ↔ table.column? name = some column := by
  rw [Table.column]
  cases table.column? name <;> simp

theorem column?_mem (found : table.column? name = some column) : column ∈ table.columns :=
  List.mem_of_find?_eq_some found

theorem name_of_column (found : table.column name = .ok column) : column.name = name := by
  have named := List.find?_some (column_eq_ok_iff.1 found)
  exact eq_of_beq named

theorem hasColumn_of_column (found : table.column name = .ok column) :
    table.hasColumn name = true := by
  rw [hasColumn, List.any_eq_true]
  refine ⟨column, column?_mem (column_eq_ok_iff.1 found), ?_⟩
  rw [name_of_column found, beq_self_eq_true]

theorem cellAt_eq_of_column (found : table.column name = .ok column) (row : Nat) :
    table.cellAt row name = column.cellAt row := by
  rw [cellAt, column_eq_ok_iff.1 found]

theorem WellFormed.length_column (wellFormed : table.WellFormed)
    (found : table.column name = .ok column) : column.cells.length = table.rowCount :=
  wellFormed.length_cells column (column?_mem (column_eq_ok_iff.1 found))

/-- The cells under a name, row by row. -/
theorem WellFormed.cells_eq_map (wellFormed : table.WellFormed)
    (found : table.column name = .ok column) :
    column.cells = (List.range table.rowCount).map fun row => table.cellAt row name := by
  simp only [cellAt_eq_of_column found]
  exact Column.cells_eq_map_cellAt (wellFormed.length_column found)

end Table

variable {table : Table}

/-- The cells of a well-formed table go row by row, also under a name it lacks. -/
theorem stackCells_cons (wellFormed : table.WellFormed) (tables : List Table) (name : String) :
    stackCells (table :: tables) name =
      ((List.range table.rowCount).map fun row => table.cellAt row name) ++
        stackCells tables name := by
  rw [stackCells, List.flatMap_cons]
  congr 1
  cases found : table.column? name with
  | none =>
      simp only [Table.cellAt, found]
      rw [List.map_const', List.length_range]
  | some column => exact wellFormed.cells_eq_map (Table.column_eq_ok_iff.2 found)

theorem stackCells_append (before after : List Table) (name : String) :
    stackCells (before ++ after) name = stackCells before name ++ stackCells after name :=
  List.flatMap_append

/-- A row of a table stands below all rows of the tables before it. -/
theorem getElem?_stackCells (before after : List Table) (wellFormed : table.WellFormed)
    (name : String) {row : Nat} (inside : row < table.rowCount) :
    (stackCells (before ++ table :: after) name)[(stackCells before name).length + row]? =
      some (table.cellAt row name) := by
  rw [stackCells_append, stackCells_cons wellFormed,
    List.getElem?_append_right (Nat.le_add_right ..), Nat.add_sub_cancel_left,
    List.getElem?_append_left (by simpa using inside)]
  simp [inside]

end TableFlow
