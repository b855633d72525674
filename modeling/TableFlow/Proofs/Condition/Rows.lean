import TableFlow.Condition.Basic
import TableFlow.Proofs.Table.Rows

/-!
# Conditions row by row

A condition is evaluated leaf by leaf on whole columns, and the masks of its leaves are combined.
This module says what that comes to in a single row: `Condition.test` is the truth of a condition in
a row that is given by the cell under each name.

Main statement: `Condition.test_of_evaluate`.
-/

namespace TableFlow.Condition

mutual

/-- The truth of a condition in a row, given by the cell under each name. -/
def test (row : String → Cell) : Condition → Except StepError Bool
  | .all children => testAll row (· && ·) true children
  | .any children => testAll row (· || ·) false children
  | .compare name operator value => compareCell name operator value (row name)
  | .member name operator values => memberCell name operator values (row name)
  | .null name test => .ok (nullCell test (row name))

/-- Combine the truths of some conditions, from left to right, onto a first one. -/
def testAll (row : String → Cell) (op : Bool → Bool → Bool) (truth : Bool) :
    List Condition → Except StepError Bool
  | [] => .ok truth
  | child :: rest =>
      match child.test row with
      | .error error => .error error
      | .ok next => testAll row op (op truth next) rest

end

variable {table : Table}

/-- A mask with one truth in every row. -/
theorem replicate_eq_map (rows : Nat) (truth : Bool) :
    List.replicate rows truth = (List.range rows).map fun _ => truth := by
  rw [List.map_const', List.length_range]

/-- Masks over the same rows are combined row by row. -/
theorem combineMasks_map (op : Bool → Bool → Bool) (first second : Nat → Bool) (rows : List Nat) :
    combineMasks op (rows.map first) (rows.map second) =
      rows.map fun row => op (first row) (second row) := by
  induction rows with
  | nil => rfl
  | cons row rest ih => simp only [List.map_cons, combineMasks, ih]

/-- A leaf that tests the cells of a column one by one has a truth in every row. -/
theorem exists_of_mapM_column {name : String} {column : Column} {mask : List Bool}
    {compute : Cell → Except StepError Bool} (wellFormed : table.WellFormed)
    (found : table.column name = .ok column) (computed : column.cells.mapM compute = .ok mask) :
    ∃ truth : Nat → Bool, mask = (List.range table.rowCount).map truth ∧
      ∀ row < table.rowCount, compute (table.cellAt row name) = .ok (truth row) := by
  obtain ⟨value, each, maskEq⟩ := exists_of_mapM_eq_ok false computed
  rw [wellFormed.cells_eq_map found] at each maskEq
  refine ⟨fun row => value (table.cellAt row name), ?_, ?_⟩
  · rw [maskEq, List.map_map]
    rfl
  · intro row bound
    exact each _ (List.mem_map.2 ⟨row, List.mem_range.2 bound, rfl⟩)

mutual

/-- A condition that can be evaluated on a table has, in every row, the truth that its mask
gives. -/
theorem test_of_evaluate (wellFormed : table.WellFormed) :
    (condition : Condition) → {mask : List Bool} → condition.evaluate table = .ok mask →
    ∃ truth : Nat → Bool, mask = (List.range table.rowCount).map truth ∧
      ∀ row < table.rowCount, condition.test (table.cellAt row) = .ok (truth row)
  | .all children, mask, evaluated => by
      rw [evaluate, replicate_eq_map] at evaluated
      exact testAll_of_evaluateAll wellFormed _ children _ evaluated
  | .any children, mask, evaluated => by
      rw [evaluate, replicate_eq_map] at evaluated
      exact testAll_of_evaluateAll wellFormed _ children _ evaluated
  | .compare name operator value, mask, evaluated => by
      rw [evaluate] at evaluated
      split at evaluated
      · cases evaluated
      · rename_i column found
        exact exists_of_mapM_column wellFormed found evaluated
  | .member name operator values, mask, evaluated => by
      rw [evaluate] at evaluated
      split at evaluated
      · cases evaluated
      · rename_i column found
        exact exists_of_mapM_column wellFormed found evaluated
  | .null name test, mask, evaluated => by
      rw [evaluate] at evaluated
      split at evaluated
      · cases evaluated
      · rename_i column found
        cases evaluated
        refine ⟨fun row => nullCell test (table.cellAt row name), ?_, fun row bound => rfl⟩
        rw [wellFormed.cells_eq_map found, List.map_map]
        rfl

theorem testAll_of_evaluateAll (wellFormed : table.WellFormed) (op : Bool → Bool → Bool) :
    (children : List Condition) → (start : Nat → Bool) → {mask : List Bool} →
    evaluateAll table op ((List.range table.rowCount).map start) children = .ok mask →
    ∃ truth : Nat → Bool, mask = (List.range table.rowCount).map truth ∧
      ∀ row < table.rowCount, testAll (table.cellAt row) op (start row) children = .ok (truth row)
  | [], start, mask, evaluated => by
      rw [evaluateAll] at evaluated
      cases evaluated
      exact ⟨start, rfl, fun row bound => rfl⟩
  | child :: rest, start, mask, evaluated => by
      rw [evaluateAll] at evaluated
      split at evaluated
      · cases evaluated
      · rename_i next childEvaluated
        obtain ⟨truth, rfl, tested⟩ := test_of_evaluate wellFormed child childEvaluated
        rw [combineMasks_map] at evaluated
        obtain ⟨total, maskEq, testedAll⟩ :=
          testAll_of_evaluateAll wellFormed op rest _ evaluated
        refine ⟨total, maskEq, ?_⟩
        intro row bound
        rw [testAll, tested row bound]
        exact testedAll row bound

end

end TableFlow.Condition
