import Mathlib.Data.List.Perm.Basic
import TableFlow.Proofs.Table.Rows
import TableFlow.Table.Basic

/-!
# Groups and the tables of their rows

Grouping the rows of a table partitions them: every row is in exactly one group, and no group is
empty. The rows of a group make a table of their own, whose columns hold the cells of these rows.

Main statement: `Table.isPartition_groupRows`.
-/

namespace TableFlow

/-- Groups that are not empty and together hold each of some rows once. -/
structure IsPartition (groups : List (List Nat)) (rows : List Nat) : Prop where
  nonempty : ∀ group ∈ groups, group ≠ []
  perm : groups.flatten.Perm rows

theorem IsPartition.mem {groups : List (List Nat)} {rows group : List Nat} {row : Nat}
    (partition : IsPartition groups rows) (member : group ∈ groups) (inGroup : row ∈ group) :
    row ∈ rows :=
  partition.perm.subset (List.mem_flatten_of_mem member inGroup)

theorem IsPartition.nodup_flatten {groups : List (List Nat)} {rows : List Nat}
    (partition : IsPartition groups rows) (nodup : rows.Nodup) : groups.flatten.Nodup :=
  partition.perm.nodup_iff.2 nodup

theorem perm_flatten_addToGroup (key : List Cell) (row : Nat)
    (groups : List (List Cell × List Nat)) :
    ((addToGroup key row groups).map Prod.snd).flatten.Perm
      (row :: (groups.map Prod.snd).flatten) := by
  induction groups with
  | nil => exact List.Perm.refl [row]
  | cons group rest ih =>
      obtain ⟨other, rows⟩ := group
      rw [addToGroup]
      split
      · simp only [List.map_cons, List.flatten_cons, List.append_assoc]
        exact List.perm_middle
      · simp only [List.map_cons, List.flatten_cons]
        exact (ih.append_left rows).trans List.perm_middle

theorem ne_nil_of_mem_addToGroup {key : List Cell} {row : Nat}
    {groups : List (List Cell × List Nat)} (nonempty : ∀ group ∈ groups, group.2 ≠ []) :
    ∀ group ∈ addToGroup key row groups, group.2 ≠ [] := by
  induction groups with
  | nil => simp [addToGroup]
  | cons group rest ih =>
      obtain ⟨other, rows⟩ := group
      rw [List.forall_mem_cons] at nonempty
      rw [addToGroup]
      split
      · rw [List.forall_mem_cons]
        exact ⟨by simp, nonempty.2⟩
      · rw [List.forall_mem_cons]
        exact ⟨nonempty.1, ih nonempty.2⟩

/-- One more row goes into one group. -/
theorem isPartition_addToGroup {groups : List (List Cell × List Nat)} {rows : List Nat}
    (partition : IsPartition (groups.map Prod.snd) rows) (key : List Cell) (row : Nat) :
    IsPartition ((addToGroup key row groups).map Prod.snd) (row :: rows) where
  nonempty := by
    have before := partition.nonempty
    rw [List.forall_mem_map] at before ⊢
    exact ne_nil_of_mem_addToGroup before
  perm := (perm_flatten_addToGroup key row groups).trans (partition.perm.cons row)

/-- Rows that go into groups one after the other end up in one group each. -/
theorem isPartition_foldl_addToGroup (columns : List Column) (rows : List Nat)
    {groups : List (List Cell × List Nat)} {before : List Nat}
    (partition : IsPartition (groups.map Prod.snd) before) :
    IsPartition
      ((rows.foldl (fun groups row => addToGroup (keyAt columns row) row groups) groups).map
        Prod.snd)
      (before ++ rows) := by
  induction rows generalizing groups before with
  | nil => rwa [List.append_nil]
  | cons row rest ih =>
      have grown := ih (isPartition_addToGroup partition (keyAt columns row) row)
      exact ⟨grown.nonempty, grown.perm.trans List.perm_middle.symm⟩

namespace Table

variable {table : Table}

/-- The groups of the rows of a table are a partition of its rows. -/
theorem isPartition_groupRows {keys : List String} {groups : List (List Nat)}
    (grouped : table.groupRows keys = .ok groups) :
    IsPartition groups (List.range table.rowCount) := by
  rw [groupRows] at grouped
  split at grouped
  · cases grouped
  · cases grouped
    split
    · rename_i noRows
      exact ⟨by simp, by simp [noRows]⟩
    · rename_i someRows
      exact ⟨by simpa using someRows, by simp⟩
  · rename_i columns _ _
    cases grouped
    have start : IsPartition (([] : List (List Cell × List Nat)).map Prod.snd) [] :=
      ⟨by simp, List.Perm.refl []⟩
    exact isPartition_foldl_addToGroup columns (List.range table.rowCount) start

theorem columnsOf_nil : table.columnsOf [] = .ok [] := by
  rw [columnsOf, List.mapM_nil]
  rfl

/-- Without keys the rows of a table are one group. -/
theorem groupRows_nil_of_pos (someRows : table.rowCount ≠ 0) :
    table.groupRows [] = .ok [List.range table.rowCount] := by
  rw [groupRows, columnsOf_nil]
  simp [someRows]

end Table

namespace Column

variable {column : Column} {rows : List Nat}

@[simp] theorem name_takeRows : (column.takeRows rows).name = column.name :=
  rfl

@[simp] theorem length_cells_takeRows : (column.takeRows rows).cells.length = rows.length :=
  List.length_map ..

/-- The cells of some rows under new numbers. -/
theorem map_cellAt_takeRows (column : Column) (rows : List Nat) :
    (List.range rows.length).map (column.takeRows rows).cellAt = rows.map column.cellAt :=
  (cells_eq_map_cellAt length_cells_takeRows).symm

/-- Cells that agree under new numbers are the same cells, row by row. -/
theorem map_cellAt_map {source : Column} {renumber : Nat → Nat}
    (agree : ∀ row, source.cellAt (renumber row) = column.cellAt row) (rows : List Nat) :
    (rows.map renumber).map source.cellAt = rows.map column.cellAt := by
  rw [List.map_map]
  exact List.map_congr_left fun row _ => agree row

/-- A number beyond the rows taken stands for a row beyond the column. -/
theorem cellAt_takeRows (column : Column) (rows : List Nat) {beyond : Nat}
    (outside : column.cells.length ≤ beyond) (index : Nat) :
    (column.takeRows rows).cellAt index = column.cellAt (rows.getD index beyond) := by
  have empty : column.cellAt beyond = .null := by
    rw [cellAt, List.getD_eq_getElem?_getD, List.getElem?_eq_none outside, Option.getD_none]
  simp only [cellAt, takeRows, List.getD_eq_getElem?_getD, List.getElem?_map] at empty ⊢
  cases rows[index]? with
  | none => exact empty.symm
  | some row => rfl

end Column

namespace Table

variable {table : Table} {name : String} {column : Column}

@[simp] theorem rowCount_takeRows (rows : List Nat) :
    (table.takeRows rows).rowCount = rows.length :=
  rfl

/-- The table of a group has rows. -/
theorem rowCount_takeRows_ne_zero {keys : List String} {groups : List (List Nat)} {rows : List Nat}
    (grouped : table.groupRows keys = .ok groups) (member : rows ∈ groups) :
    (table.takeRows rows).rowCount ≠ 0 :=
  List.length_eq_zero_iff.not.2 ((isPartition_groupRows grouped).nonempty rows member)

/-- The columns of the table of some rows hold the cells of these rows. -/
theorem column_takeRows (found : table.column name = .ok column) (rows : List Nat) :
    (table.takeRows rows).column name = .ok (column.takeRows rows) := by
  rw [column_eq_ok_iff, column?] at found ⊢
  rw [takeRows, List.find?_map]
  exact congrArg (Option.map fun column => column.takeRows rows) found

/-- The column of a name in a table, taken in some of its rows, is the column of that name in
another table. -/
def Restricts (output part : Table) (name : String) (rows : List Nat) : Prop :=
  ∃ column, output.column name = .ok column ∧ (∀ row ∈ rows, row < column.cells.length) ∧
    part.column name = .ok (column.takeRows rows)

end Table

end TableFlow
