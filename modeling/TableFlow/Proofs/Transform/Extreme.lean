import TableFlow.Proofs.Cell.Compare
import TableFlow.Proofs.Table.Columns
import TableFlow.Proofs.Table.Groups
import TableFlow.Table.Basic
import TableFlow.Transform.Extreme

/-!
# Greatest and least values of groups

Keeping the rows with the best value of each group is the same as doing so in a table for each group
and putting the results one under the other.  The check that the values compare is made on the whole
column, but cells that compare with one cell compare with each other, so every group passes it too.

Main statement: `Extreme.apply_eq_stack`.
-/

namespace TableFlow

/-- Tables with some columns put one under the other. -/
def Table.stack (names : List String) (tables : List Table) : Table :=
  { columns := names.map fun name => ⟨name, stackCells tables name⟩
    rowCount := (tables.map Table.rowCount).foldr (· + ·) 0 }

namespace Table

variable {table : Table}

/-- Rows picked from several groups are the rows picked from each, one under the other. -/
theorem WellFormed.takeRows_flatMap (wellFormed : table.WellFormed) (groups : List (List Nat))
    (pick : List Nat → List Nat) :
    table.takeRows (groups.flatMap pick) =
      stack table.names (groups.map fun rows => table.takeRows (pick rows)) := by
  have cells (column : Column) (member : column ∈ table.columns) :
      column.takeRows (groups.flatMap pick) =
        ⟨column.name,
          stackCells (groups.map fun rows => table.takeRows (pick rows)) column.name⟩ := by
    have found := wellFormed.column_of_mem member
    have taken (rows : List Nat) :
        (table.takeRows (pick rows)).column? column.name = some (column.takeRows (pick rows)) :=
      column_eq_ok_iff.1 (column_takeRows found (pick rows))
    simp only [stackCells, List.flatMap_map, taken, Column.takeRows, List.map_flatMap]
  rw [Table.takeRows, stack, names, List.map_map, List.map_congr_left cells, Table.mk.injEq]
  refine ⟨rfl, ?_⟩
  rw [List.map_map, List.length_flatMap]
  rfl

/-- Rows taken from rows taken are rows of the first table. -/
theorem WellFormed.takeRows_takeRows (wellFormed : table.WellFormed) (rows positions : List Nat) :
    (table.takeRows rows).takeRows positions =
      table.takeRows (positions.map (rows.getD · table.rowCount)) := by
  have cells (column : Column) (member : column ∈ table.columns) :
      (column.takeRows rows).takeRows positions =
        column.takeRows (positions.map (rows.getD · table.rowCount)) := by
    have outside := Nat.le_of_eq (wellFormed.length_cells column member)
    have agree : (column.takeRows rows).cellAt =
        column.cellAt ∘ (rows.getD · table.rowCount) :=
      funext (column.cellAt_takeRows rows outside)
    rw [Column.takeRows, agree, ← List.map_map]
    rfl
  simp only [Table.takeRows, List.map_map, List.length_map, Function.comp_def]
  rw [List.map_congr_left cells]

end Table

theorem checkAll_eq_ok_iff {α : Type} {check : α → Except StepError Unit} {items : List α} :
    checkAll check items = .ok () ↔ ∀ item ∈ items, check item = .ok () := by
  induction items with
  | nil => simp [checkAll]
  | cons item rest ih =>
      rw [checkAll, List.forall_mem_cons, ← ih]
      cases check item <;> simp

namespace Extreme

variable {table output : Table} {column : Column}

/-- A column passes the check exactly if its cells, empty ones apart, compare with each other. -/
theorem checkComparable_eq_ok_iff :
    checkComparable column = .ok () ↔
      (Cell.filled column.cells).Pairwise fun left right =>
        (left.compare? right).isSome = true := by
  rw [checkComparable]
  split
  · rename_i noCells
    simp [noCells]
  · rename_i first rest cells
    rw [cells, checkAll_eq_ok_iff, List.pairwise_cons]
    constructor
    · intro checked
      have withFirst (cell : Cell) (member : cell ∈ rest) :
          (first.compare? cell).isSome = true := by
        have passed := checked cell member
        split at passed
        · assumption
        · cases passed
      refine ⟨withFirst, ?_⟩
      apply List.pairwise_of_forall_mem_list
      intro left inLeft right inRight
      exact Cell.isSome_compare?_of_common (withFirst left inLeft) (withFirst right inRight)
    · rintro ⟨withFirst, -⟩
      intro cell member
      rw [if_pos (withFirst cell member)]

/-- If the cells of a column compare with each other, so do those of a group. -/
theorem checkComparable_takeRows {groups : List (List Nat)} {rows : List Nat}
    (partition : IsPartition groups (List.range column.cells.length))
    (comparable : checkComparable column = .ok ()) (member : rows ∈ groups) :
    checkComparable (column.takeRows rows) = .ok () := by
  rw [checkComparable_eq_ok_iff] at comparable ⊢
  have symmetric {left right : Cell} (compares : (left.compare? right).isSome = true) :
      (right.compare? left).isSome = true := by
    rwa [Cell.isSome_compare?_comm]
  -- The order of the rows does not matter to a symmetric relation, so the rows may stand by groups.
  have byGroups : (Cell.filled (groups.flatten.map column.cellAt)).Perm
      (Cell.filled column.cells) := by
    rw [Column.cells_eq_map_cellAt rfl]
    exact (partition.perm.map column.cellAt).filter _
  have whole := (byGroups.pairwise_iff symmetric).2 comparable
  exact whole.sublist (((List.sublist_flatten_of_mem member).map column.cellAt).filter _)

/-- Which rows hold the best value depends on the cells and not on the numbers of the rows. -/
theorem bestRows_map (side : Side) {source : Column} {renumber : Nat → Nat}
    (agree : ∀ row, source.cellAt (renumber row) = column.cellAt row) (rows : List Nat) :
    bestRows side source (rows.map renumber) = (bestRows side column rows).map renumber := by
  simp only [bestRows, Column.map_cellAt_map agree]
  split
  · rfl
  · simp only [List.filter_map, Function.comp_def, agree]

/-- The rows kept of a group are those kept of a table of its own. -/
theorem apply_takeRows (extreme : Extreme) (side : Side) (wellFormed : table.WellFormed)
    {keys : List String} {groups : List (List Nat)} (grouped : table.groupRows keys = .ok groups)
    (found : table.column extreme.column = .ok column)
    (comparable : checkComparable column = .ok ()) {rows : List Nat} (member : rows ∈ groups) :
    Extreme.apply { extreme with groups := [] } side (table.takeRows rows) =
      .ok (table.takeRows (bestRows side column rows)) := by
  have length := wellFormed.length_column found
  have partition := Table.isPartition_groupRows grouped
  rw [← length] at partition
  have agree (index : Nat) :
      column.cellAt (rows.getD index table.rowCount) = (column.takeRows rows).cellAt index :=
    (column.cellAt_takeRows rows (Nat.le_of_eq length) index).symm
  have best := bestRows_map side agree (List.range rows.length)
  rw [map_getD_range] at best
  simp only [apply, Table.column_takeRows found rows,
    checkComparable_takeRows partition comparable member,
    Table.groupRows_nil_of_pos (Table.rowCount_takeRows_ne_zero grouped member),
    Table.rowCount_takeRows, List.flatMap_cons, List.flatMap_nil, List.append_nil]
  rw [wellFormed.takeRows_takeRows, best]

/-- The rows with the best values of the groups are those of a table for each group, one under the
other. -/
theorem apply_eq_stack {extreme : Extreme} {side : Side} (wellFormed : table.WellFormed)
    (applied : extreme.apply side table = .ok output) :
    ∃ groups parts, table.groupRows extreme.groups = .ok groups ∧
      (groups.mapM fun rows =>
        Extreme.apply { extreme with groups := [] } side (table.takeRows rows)) = .ok parts ∧
      output = .stack table.names parts := by
  rw [apply] at applied
  split at applied
  · cases applied
  · rename_i column found
    split at applied
    · cases applied
    · rename_i comparable
      split at applied
      · cases applied
      · rename_i groups grouped
        cases applied
        refine ⟨groups, _, grouped, mapM_eq_ok_map ?_, wellFormed.takeRows_flatMap groups _⟩
        intro rows member
        exact apply_takeRows extreme side wellFormed grouped found comparable member

end Extreme

end TableFlow
