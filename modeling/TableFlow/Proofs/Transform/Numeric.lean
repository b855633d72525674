import TableFlow.Proofs.Table.Groups
import TableFlow.Transform.Check

/-!
# Columns of numbers

The check for numbers looks at the kinds in a whole column.  Some rows of a column have no kind that
the column has not, so what passes the check passes it in every group.
-/

namespace TableFlow

namespace Column

variable {column : Column} {kind : Kind}

theorem mem_foldl_distinct (kinds distinct : List Kind) :
    kind ∈ kinds.foldl (fun distinct kind =>
        if distinct.contains kind then distinct else distinct ++ [kind]) distinct ↔
      kind ∈ distinct ∨ kind ∈ kinds := by
  induction kinds generalizing distinct with
  | nil => simp
  | cons first rest ih =>
      rw [List.foldl_cons, ih]
      split <;> grind

theorem mem_kinds : kind ∈ column.kinds ↔ ∃ cell ∈ column.cells, cell.kind? = some kind := by
  rw [kinds, mem_foldl_distinct]
  simp

theorem cellAt_mem {row : Nat} (filled : (column.cellAt row).kind? = some kind) :
    column.cellAt row ∈ column.cells := by
  rw [cellAt, List.getD_eq_getElem?_getD] at filled ⊢
  cases found : column.cells[row]? with
  | none =>
      rw [found] at filled
      cases filled
  | some cell => exact List.mem_of_getElem? found

theorem mem_kinds_of_mem_takeRows {rows : List Nat} (member : kind ∈ (column.takeRows rows).kinds) :
    kind ∈ column.kinds := by
  rw [mem_kinds] at member ⊢
  obtain ⟨cell, inTaken, ofKind⟩ := member
  obtain ⟨row, -, rfl⟩ := List.mem_map.1 inTaken
  exact ⟨column.cellAt row, cellAt_mem ofKind, ofKind⟩

end Column

variable {column : Column} {expected : Expectation}

theorem requireNumeric_eq_ok_iff {kinds : List Kind} :
    requireNumeric column expected = .ok kinds ↔
      (∀ kind ∈ column.kinds, kind.isNumeric = true) ∧ column.kinds = kinds := by
  rw [requireNumeric]
  split
  · rename_i kind found
    have notNumeric := List.find?_some found
    have member := List.mem_of_find?_eq_some found
    simp only [reduceCtorEq, false_iff, not_and]
    intro numeric
    rw [numeric kind member] at notNumeric
    cases notNumeric
  · rename_i absent
    rw [List.find?_eq_none] at absent
    simp_all

/-- A column that passes the check passes it in every group. -/
theorem requireNumeric_takeRows {kinds : List Kind}
    (numeric : requireNumeric column expected = .ok kinds) (rows : List Nat) :
    requireNumeric (column.takeRows rows) expected = .ok (column.takeRows rows).kinds := by
  rw [requireNumeric_eq_ok_iff] at numeric ⊢
  exact ⟨fun kind member => numeric.1 kind (Column.mem_kinds_of_mem_takeRows member), rfl⟩

/-- A column of a table has a cell with a float. -/
def Table.HoldsFloat (table : Table) (name : String) : Prop :=
  ∃ row value, table.cellAt row name = .float value

theorem Table.holdsFloat_iff {table : Table} {name : String}
    (found : table.column name = .ok column) :
    table.HoldsFloat name ↔ column.kinds.contains .float = true := by
  rw [List.contains_iff_mem, Column.mem_kinds]
  simp only [HoldsFloat, cellAt_eq_of_column found]
  constructor
  · rintro ⟨row, value, isFloat⟩
    have ofKind : (column.cellAt row).kind? = some .float := by rw [isFloat, Cell.kind?]
    exact ⟨column.cellAt row, Column.cellAt_mem ofKind, ofKind⟩
  · rintro ⟨cell, member, ofKind⟩
    obtain ⟨row, bound, rfl⟩ := List.getElem_of_mem member
    refine ⟨row, ?_⟩
    rw [Column.cellAt, List.getD_eq_getElem?_getD, List.getElem?_eq_getElem bound, Option.getD_some]
    cases cell : column.cells[row] <;> simp_all [Cell.kind?]

theorem Table.not_holdsFloat_takeRows {table : Table} {name : String}
    (found : table.column name = .ok column) (noFloat : ¬ table.HoldsFloat name) (rows : List Nat) :
    ¬ (table.takeRows rows).HoldsFloat name := by
  rw [holdsFloat_iff found, List.contains_iff_mem] at noFloat
  rw [holdsFloat_iff (column_takeRows found rows), List.contains_iff_mem]
  exact fun inTaken => noFloat (Column.mem_kinds_of_mem_takeRows inTaken)

end TableFlow
