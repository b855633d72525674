import TableFlow.Proofs.Table.Columns
import TableFlow.Proofs.Table.Groups

/-!
# Operations on columns commute with taking rows

Taking rows changes the cells of columns and leaves their names and their order alone, while the
operations on columns go by the names.  So it makes no difference whether rows are taken before or
after such an operation, as long as a column that is put into the table is taken in the same rows.
-/

namespace TableFlow

open Table

namespace Column

variable {column : Column} {rows : List Nat}

theorem cellAt_takeRows_of_lt {index : Nat} (bound : index < rows.length) :
    (column.takeRows rows).cellAt index = column.cellAt rows[index] := by
  simp [cellAt, takeRows, bound]

/-- A column that is computed row by row, taken in some of the rows. -/
theorem takeRows_map_range {count : Nat} (name : String) (cell : Nat → Cell)
    (inside : ∀ row ∈ rows, row < count) :
    (Column.mk name ((List.range count).map cell)).takeRows rows = ⟨name, rows.map cell⟩ := by
  rw [takeRows, Column.mk.injEq]
  refine ⟨rfl, List.map_congr_left ?_⟩
  intro row member
  simp [cellAt, inside row member]

end Column

section Lists

variable (rows : List Nat) (columns : List Column)

theorem putColumn_takeRows (column : Column) :
    putColumn (columns.map fun column => column.takeRows rows) (column.takeRows rows) =
      (putColumn columns column).map fun column => column.takeRows rows := by
  induction columns with
  | nil => rfl
  | cons first rest ih =>
      simp only [List.map_cons, putColumn, Column.name_takeRows, ih]
      split <;> rfl

theorem dropColumn_takeRows (name : String) :
    dropColumn name (columns.map fun column => column.takeRows rows) =
      (dropColumn name columns).map fun column => column.takeRows rows := by
  induction columns with
  | nil => rfl
  | cons first rest ih =>
      simp only [List.map_cons, dropColumn, Column.name_takeRows, ih]
      split <;> rfl

theorem renameFirst_takeRows (old new : String) :
    renameFirst old new (columns.map fun column => column.takeRows rows) =
      (renameFirst old new columns).map fun column => column.takeRows rows := by
  induction columns with
  | nil => rfl
  | cons first rest ih =>
      simp only [List.map_cons, renameFirst, Column.name_takeRows, ih]
      split <;> rfl

end Lists

namespace Table

variable {table output : Table} (rows : List Nat)

theorem column?_takeRows (name : String) :
    (table.takeRows rows).column? name =
      (table.column? name).map fun column => column.takeRows rows := by
  rw [column?, takeRows, List.find?_map]
  rfl

@[simp] theorem hasColumn_takeRows (name : String) :
    (table.takeRows rows).hasColumn name = table.hasColumn name := by
  rw [hasColumn, takeRows, List.any_map]
  rfl

/-- The cells in a row of the table of some rows. -/
theorem cellAt_takeRows {rows : List Nat} {index : Nat} (bound : index < rows.length) :
    (table.takeRows rows).cellAt index = table.cellAt rows[index] := by
  funext name
  rw [cellAt, cellAt, column?_takeRows]
  cases table.column? name with
  | none => rfl
  | some column => exact Column.cellAt_takeRows_of_lt bound

/-- All rows in their order make the whole table. -/
theorem WellFormed.takeRows_range (wellFormed : table.WellFormed) :
    table.takeRows (List.range table.rowCount) = table := by
  have same : ∀ column ∈ table.columns, column.takeRows (List.range table.rowCount) = column := by
    intro column member
    rw [Column.takeRows, ← Column.cells_eq_map_cellAt (wellFormed.length_cells column member)]
  rw [Table.takeRows, List.map_congr_left same, List.map_id', List.length_range]

theorem columnsOf_takeRows {names : List String} {columns : List Column}
    (found : table.columnsOf names = .ok columns) :
    (table.takeRows rows).columnsOf names =
      .ok (columns.map fun column => column.takeRows rows) := by
  obtain ⟨column, each, rfl⟩ := exists_of_mapM_eq_ok (Column.mk "" []) found
  rw [List.map_map]
  exact mapM_eq_ok_map fun name member => column_takeRows (each name member) rows

/-- Columns that make a table make the table of some rows when they are taken in these rows. -/
theorem ofColumns_takeRows {columns : List Column} (occupied : columns ≠ [])
    (built : ofColumns columns = .ok output) :
    ofColumns (columns.map fun column => column.takeRows rows) = .ok (output.takeRows rows) := by
  obtain ⟨columnsEq, -, wellFormed⟩ := ofColumns_eq_ok_iff.1 built
  rw [ofColumns_eq_ok_iff]
  refine ⟨by rw [takeRows, columnsEq], ?_, wellFormed.takeRows rows⟩
  cases columns with
  | nil => exact absurd rfl occupied
  | cons first rest => simp

/-- Putting a column into a table.  The table of the rows has as many rows as the column then has
cells, so the column fits. -/
theorem withColumn_takeRows {column : Column} (added : table.withColumn column = .ok output) :
    (table.takeRows rows).withColumn (column.takeRows rows) = .ok (output.takeRows rows) := by
  rw [withColumn] at added ⊢
  split at added
  · cases added
  · rw [if_neg (by simp)]
    rw [takeRows, putColumn_takeRows]
    exact ofColumns_takeRows rows (putColumn_ne_nil table.columns column) added

theorem withColumns_takeRows {columns : List Column}
    (added : table.withColumns columns = .ok output) :
    (table.takeRows rows).withColumns (columns.map fun column => column.takeRows rows) =
      .ok (output.takeRows rows) := by
  induction columns generalizing table with
  | nil =>
      cases added
      rfl
  | cons column rest ih =>
      rw [withColumns] at added
      split at added
      · cases added
      · rename_i next addedFirst
        rw [List.map_cons, withColumns, withColumn_takeRows rows addedFirst]
        exact ih added

theorem withoutColumn_takeRows {name : String} (dropped : table.withoutColumn name = .ok output) :
    (table.takeRows rows).withoutColumn name = .ok (output.takeRows rows) := by
  rw [withoutColumn] at dropped ⊢
  rw [hasColumn_takeRows]
  split at dropped
  · rename_i known
    cases dropped
    rw [if_pos known, takeRows, dropColumn_takeRows]
    rfl
  · cases dropped

theorem renameColumn_takeRows {old new : String}
    (renamed : table.renameColumn old new = .ok output) :
    (table.takeRows rows).renameColumn old new = .ok (output.takeRows rows) := by
  rw [renameColumn] at renamed ⊢
  rw [hasColumn_takeRows]
  split at renamed
  · rename_i known
    have occupied : renameFirst old new table.columns ≠ [] := by
      rw [hasColumn] at known
      cases columns : table.columns with
      | nil => simp [columns] at known
      | cons first rest =>
          rw [renameFirst]
          split <;> simp
    rw [if_pos known, takeRows, renameFirst_takeRows]
    exact ofColumns_takeRows rows occupied renamed
  · cases renamed

theorem select_takeRows {names : List String} (selected : table.select names = .ok output) :
    (table.takeRows rows).select names = .ok (output.takeRows rows) := by
  rw [select] at selected ⊢
  split at selected
  · cases selected
  · rename_i found
    cases selected
    rw [columnsOf_takeRows rows found]
    rfl
  · rename_i columns occupied found
    rw [columnsOf_takeRows rows found]
    have taken := ofColumns_takeRows rows occupied selected
    cases columns with
    | nil => exact absurd rfl occupied
    | cons first rest => exact taken

end Table

end TableFlow
