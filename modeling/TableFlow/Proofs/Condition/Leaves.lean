import TableFlow.Proofs.Cell.Compare
import TableFlow.Proofs.Condition.Rows
import TableFlow.Proofs.Table.ByRows
import TableFlow.Proofs.Table.Grouping

/-!
# Conditions leaf by leaf

A condition is as good as its leaves.  It can be evaluated exactly if each of its leaves can be
evaluated alone, whatever the other leaves decide, and its truth in a row combines the truths of the
leaves in that row.  A leaf fails if its column is missing, or for the sake of a cell: a comparison
needs every cell to compare with its literal, while a membership is content with one of its
literals.  Empty cells and empty literals never make a leaf fail.

Main statement: `Condition.evaluate_leafwise`.
-/

namespace TableFlow.Condition

/-- A test of one column. -/
inductive Leaf where
  | compare (column : String) (operator : Comparison) (value : Cell)
  | member (column : String) (operator : Membership) (values : List Cell)
  | null (column : String) (test : NullTest)

namespace Leaf

/-- A leaf as a condition of its own. -/
def alone : Leaf → Condition
  | .compare column operator value => .compare column operator value
  | .member column operator values => .member column operator values
  | .null column test => .null column test

/-- The column that a leaf tests. -/
def column : Leaf → String
  | .compare column _ _ => column
  | .member column _ _ => column
  | .null column _ => column

/-- A leaf can be asked of a cell.  A comparison has to compare, a membership has to find a literal
that compares if it has literals at all; what is empty does not count. -/
def Accepts (cell : Cell) : Leaf → Prop
  | .compare _ _ value => cell ≠ .null → value ≠ .null → (cell.compare? value).isSome = true
  | .member _ _ values =>
      cell ≠ .null → (∀ value ∈ values, value = .null) ∨
        ∃ value ∈ values, value ≠ .null ∧ (cell.compare? value).isSome = true
  | .null _ _ => True

/-- The truth of a leaf for a cell.  Where something is empty a comparison holds as a difference
only, and a membership as an absence only. -/
def passes (cell : Cell) : Leaf → Bool
  | .compare _ operator value =>
      if cell.isNull || value.isNull then operator == .ne
      else (cell.compare? value).any operator.holds
  | .member _ operator values =>
      if cell.isNull then operator == .without
      else (operator == .within) == values.any fun value => cell.compare? value == some .eq
  | .null _ .isNull => cell.isNull
  | .null _ .notNull => !cell.isNull

end Leaf

mutual

/-- The leaves of a condition, from left to right. -/
def leaves : Condition → List Leaf
  | .all children => leavesOf children
  | .any children => leavesOf children
  | .compare column operator value => [.compare column operator value]
  | .member column operator values => [.member column operator values]
  | .null column test => [.null column test]

def leavesOf : List Condition → List Leaf
  | [] => []
  | child :: rest => child.leaves ++ leavesOf rest

end

mutual

/-- The truth of a condition in a row, from the truths of its leaves. -/
def holds (row : String → Cell) : Condition → Bool
  | .all children => holdAll row children
  | .any children => holdAny row children
  | .compare column operator value => Leaf.passes (row column) (.compare column operator value)
  | .member column operator values => Leaf.passes (row column) (.member column operator values)
  | .null column test => Leaf.passes (row column) (.null column test)

def holdAll (row : String → Cell) : List Condition → Bool
  | [] => true
  | child :: rest => child.holds row && holdAll row rest

def holdAny (row : String → Cell) : List Condition → Bool
  | [] => false
  | child :: rest => child.holds row || holdAny row rest

end

/-- The errors of the leaves that fail, from left to right. -/
def failures (table : Table) (condition : Condition) : List StepError :=
  condition.leaves.filterMap fun leaf => failure? (leaf.alone.evaluate table)

variable {table : Table} {row : String → Cell}

theorem holdAll_eq (children : List Condition) :
    holdAll row children = children.all (holds row) := by
  induction children with
  | nil => rfl
  | cons child rest ih => rw [holdAll, ih, List.all_cons]

theorem leavesOf_eq_flatMap (children : List Condition) :
    leavesOf children = children.flatMap leaves := by
  induction children with
  | nil => rfl
  | cons child rest ih => rw [leavesOf, ih, List.flatMap_cons]

section Cells

variable {column : String} {cell : Cell} {truth : Bool}

theorem compareCell_eq_ok_iff {operator : Comparison} {value : Cell} :
    compareCell column operator value cell = .ok truth ↔
      (Leaf.compare column operator value).Accepts cell ∧
        truth = (Leaf.compare column operator value).passes cell := by
  rw [compareCell, Leaf.Accepts, Leaf.passes, ← Cell.isNull_eq_false_iff,
    ← Cell.isNull_eq_false_iff]
  cases cellNull : cell.isNull <;> cases valueNull : value.isNull <;>
    cases compared : cell.compare? value <;> simp [eq_comm]

/-- Empty literals are left out before the search, and an empty literal compares with nothing. -/
theorem any_compare?_filter (values : List Cell) (test : Option Ordering → Bool)
    (ofNone : test none = false) :
    ((values.filter fun value => !value.isNull).any fun value => test (cell.compare? value)) =
      values.any fun value => test (cell.compare? value) := by
  rw [List.any_filter]
  congr 1
  funext value
  cases null : value.isNull with
  | false => simp
  | true => simp [Cell.isNull_eq_true_iff.1 null, ofNone]

theorem findCell_eq_ok_iff {literals : List Cell} (filled : cell.isNull = false) :
    findCell column literals cell = .ok truth ↔
      (literals = [] ∨ ∃ literal ∈ literals, (cell.compare? literal).isSome = true) ∧
        truth = literals.any fun literal => cell.compare? literal == some .eq := by
  rw [findCell.eq_def, if_neg (by simp [filled])]
  cases literals with
  | nil => simp
  | cons first rest =>
      simp only [← List.any_eq_true]
      split
      · rename_i comparable
        simp [comparable, @eq_comm _ truth]
      · rename_i incomparable
        simp [incomparable]

theorem memberCell_eq_ok_iff {operator : Membership} {values : List Cell} :
    memberCell column operator values cell = .ok truth ↔
      (Leaf.member column operator values).Accepts cell ∧
        truth = (Leaf.member column operator values).passes cell := by
  have byOperator : memberCell column operator values cell =
      (findCell column (values.filter fun value => !value.isNull) cell).map fun found =>
        (operator == .within) == found := by
    rw [memberCell]
    cases findCell column (values.filter fun value => !value.isNull) cell with
    | error error => rfl
    | ok found => cases operator <;> cases found <;> rfl
  have searchable : ((values.filter fun value => !value.isNull) = [] ∨
        ∃ literal ∈ values.filter fun value => !value.isNull,
          (cell.compare? literal).isSome = true) ↔
      (∀ value ∈ values, value = .null) ∨
        ∃ value ∈ values, value ≠ .null ∧ (cell.compare? value).isSome = true := by
    simp [List.filter_eq_nil_iff, List.mem_filter, Cell.isNull_eq_false_iff, and_assoc]
  rw [byOperator, map_eq_ok_iff, Leaf.Accepts, Leaf.passes, ← Cell.isNull_eq_false_iff]
  cases filled : cell.isNull with
  | true =>
      have absent :
          findCell column (values.filter fun value => !value.isNull) cell = .ok false := by
        rw [findCell.eq_def, if_pos filled]
      have unfound : ((operator == .within) == false) = (operator == .without) := by
        cases operator <;> rfl
      simp [absent, unfound, @eq_comm _ truth]
  | false =>
      simp only [findCell_eq_ok_iff filled, searchable,
        any_compare?_filter values (· == some .eq) rfl]
      constructor
      · rintro ⟨_, ⟨compares, rfl⟩, rfl⟩
        exact ⟨fun _ => compares, rfl⟩
      · rintro ⟨compares, rfl⟩
        exact ⟨_, ⟨compares True.intro, rfl⟩, rfl⟩

end Cells

@[simp] theorem leaves_alone (leaf : Leaf) : leaf.alone.leaves = [leaf] := by
  cases leaf <;> rfl

theorem failure?_evaluate_alone (table : Table) (leaf : Leaf) :
    failure? (leaf.alone.evaluate table) = (leaf.alone.failures table).head? := by
  rw [failures, leaves_alone, List.filterMap_cons]
  cases failure? (leaf.alone.evaluate table) <;> rfl

mutual

/-- A condition fails with the error of the first leaf that fails. -/
theorem failure?_evaluate (table : Table) :
    (condition : Condition) →
    failure? (condition.evaluate table) = (condition.failures table).head?
  | .all children => by
      rw [evaluate, failures, leaves]
      exact failure?_evaluateAll table _ _ children
  | .any children => by
      rw [evaluate, failures, leaves]
      exact failure?_evaluateAll table _ _ children
  | .compare column operator value =>
      failure?_evaluate_alone table (.compare column operator value)
  | .member column operator values =>
      failure?_evaluate_alone table (.member column operator values)
  | .null column test => failure?_evaluate_alone table (.null column test)

/-- The mask that the children are combined onto has no say in whether they fail. -/
theorem failure?_evaluateAll (table : Table) (op : Bool → Bool → Bool) (mask : List Bool) :
    (children : List Condition) →
    failure? (evaluateAll table op mask children) =
      ((leavesOf children).filterMap fun leaf => failure? (leaf.alone.evaluate table)).head?
  | [] => rfl
  | child :: rest => by
      rw [evaluateAll, leavesOf, List.filterMap_append, List.head?_append, ← failures,
        ← failure?_evaluate table child]
      cases child.evaluate table with
      | error error => rfl
      | ok next => exact failure?_evaluateAll table op _ rest

end

/-- A condition can be evaluated exactly if its leaves can. -/
theorem exists_evaluate_iff {condition : Condition} :
    (∃ mask, condition.evaluate table = .ok mask) ↔
      ∀ leaf ∈ condition.leaves, ∃ mask, leaf.alone.evaluate table = .ok mask := by
  simp only [← failure?_eq_none_iff, failure?_evaluate table condition, failures,
    List.head?_eq_none_iff, List.filterMap_eq_nil_iff]

theorem exists_evaluate_all_iff {children : List Condition} :
    (∃ mask, (Condition.all children).evaluate table = .ok mask) ↔
      ∀ child ∈ children, ∃ mask, child.evaluate table = .ok mask := by
  rw [exists_evaluate_iff, leaves, leavesOf_eq_flatMap]
  constructor
  · intro each child member
    apply exists_evaluate_iff.2
    intro leaf inChild
    exact each leaf (List.mem_flatMap_of_mem member inChild)
  · intro each leaf inChildren
    obtain ⟨child, member, inChild⟩ := List.mem_flatMap.1 inChildren
    exact exists_evaluate_iff.1 (each child member) leaf inChild

def Leaf.test : Leaf → Cell → Except StepError Bool
  | .compare column operator value, cell => compareCell column operator value cell
  | .member column operator values, cell => memberCell column operator values cell
  | .null _ test, cell => .ok (nullCell test cell)

theorem Leaf.test_eq_ok_iff {leaf : Leaf} {cell : Cell} {truth : Bool} :
    leaf.test cell = .ok truth ↔ leaf.Accepts cell ∧ truth = leaf.passes cell := by
  cases leaf with
  | compare column operator value => exact compareCell_eq_ok_iff
  | member column operator values => exact memberCell_eq_ok_iff
  | null column test => cases test <;> simp [Leaf.test, Accepts, passes, nullCell, @eq_comm _ truth]

theorem evaluate_alone (leaf : Leaf) (table : Table) :
    leaf.alone.evaluate table =
      ((table.column leaf.column).map Column.cells).bind (List.mapM leaf.test) := by
  cases leaf with
  | compare name operator value =>
      simp only [Leaf.alone, Leaf.column, evaluate]
      cases table.column name <;> rfl
  | member name operator values =>
      simp only [Leaf.alone, Leaf.column, evaluate]
      cases table.column name <;> rfl
  | null name test =>
      simp only [Leaf.alone, Leaf.column, evaluate]
      cases table.column name with
      | error error => rfl
      | ok column => exact (mapM_eq_ok_map fun cell _ => rfl).symm

/-- A leaf can be evaluated exactly if its column is there and it can be asked of every cell. -/
theorem exists_evaluate_alone_iff (wellFormed : table.WellFormed) (leaf : Leaf) :
    (∃ mask, leaf.alone.evaluate table = .ok mask) ↔
      table.hasColumn leaf.column = true ∧
        ∀ row < table.rowCount, leaf.Accepts (table.cellAt row leaf.column) := by
  rw [evaluate_alone]
  cases known : table.hasColumn leaf.column with
  | false => simp [Table.column_of_missing known, Except.map, Except.bind]
  | true =>
      obtain ⟨column, found⟩ := Table.exists_column known
      have traversed (mask : List Bool) : column.cells.mapM leaf.test = .ok mask ↔
          (∀ cell ∈ column.cells, leaf.Accepts cell) ∧
            mask = column.cells.map fun cell => leaf.passes cell :=
        mapM_eq_ok_iff_of (fun _ _ _ => Leaf.test_eq_ok_iff) mask
      simp only [found, Except.map, Except.bind, traversed]
      simp [wellFormed.cells_eq_map found]

mutual

/-- The truth that a condition has in a row comes from its leaves. -/
theorem eq_holds_of_test :
    (condition : Condition) → {truth : Bool} → condition.test row = .ok truth →
    truth = condition.holds row
  | .all children, truth, tested => by
      rw [test] at tested
      simpa [holds] using eq_holdAll_of_testAll children tested
  | .any children, truth, tested => by
      rw [test] at tested
      simpa [holds] using eq_holdAny_of_testAll children tested
  | .compare column operator value, truth, tested => (compareCell_eq_ok_iff.1 tested).2
  | .member column operator values, truth, tested => (memberCell_eq_ok_iff.1 tested).2
  | .null column test, truth, tested => by
      cases tested
      cases test <;> rfl

theorem eq_holdAll_of_testAll :
    (children : List Condition) → {start total : Bool} →
    testAll row (· && ·) start children = .ok total → total = (start && holdAll row children)
  | [], start, total, tested => by
      cases tested
      rw [holdAll, Bool.and_true]
  | child :: rest, start, total, tested => by
      rw [testAll] at tested
      split at tested
      · cases tested
      · rename_i truth here
        rw [holdAll, ← eq_holds_of_test child here, ← Bool.and_assoc]
        exact eq_holdAll_of_testAll rest tested

theorem eq_holdAny_of_testAll :
    (children : List Condition) → {start total : Bool} →
    testAll row (· || ·) start children = .ok total → total = (start || holdAny row children)
  | [], start, total, tested => by
      cases tested
      rw [holdAny, Bool.or_false]
  | child :: rest, start, total, tested => by
      rw [testAll] at tested
      split at tested
      · cases tested
      · rename_i truth here
        rw [holdAny, ← eq_holds_of_test child here, ← Bool.or_assoc]
        exact eq_holdAny_of_testAll rest tested

end

/-- The mask of a condition gives its truth in every row. -/
theorem eq_map_holds_of_evaluate (wellFormed : table.WellFormed) {condition : Condition}
    {mask : List Bool} (evaluated : condition.evaluate table = .ok mask) :
    mask = (List.range table.rowCount).map fun row => condition.holds (table.cellAt row) := by
  obtain ⟨truth, rfl, tested⟩ := test_of_evaluate wellFormed condition evaluated
  apply List.map_congr_left
  intro row member
  exact eq_holds_of_test condition (tested row (List.mem_range.1 member))

/-- A condition is evaluated leaf by leaf, and all leaves are evaluated on all rows.  It succeeds
exactly if every leaf does, which is for the column of the leaf and its cells to say; otherwise it
fails with the error of the first leaf that fails.  If it succeeds its mask combines in every row
the truths of the leaves there. -/
theorem evaluate_leafwise (condition : Condition) (table : Table) (wellFormed : table.WellFormed) :
    ((∃ mask, condition.evaluate table = .ok mask) ↔
      ∀ leaf ∈ condition.leaves, ∃ mask, leaf.alone.evaluate table = .ok mask) ∧
    (∀ leaf ∈ condition.leaves, (∃ mask, leaf.alone.evaluate table = .ok mask) ↔
      table.hasColumn leaf.column = true ∧
        ∀ row < table.rowCount, leaf.Accepts (table.cellAt row leaf.column)) ∧
    (∀ mask, condition.evaluate table = .ok mask →
      mask.length = table.rowCount ∧
        ∀ row < table.rowCount, mask[row]? = some (condition.holds (table.cellAt row))) ∧
    ∀ error, condition.evaluate table = .error error ↔
      (condition.failures table).head? = some error := by
  refine ⟨exists_evaluate_iff, ?_, ?_, ?_⟩
  · exact fun leaf _ => exists_evaluate_alone_iff wellFormed leaf
  · intro mask evaluated
    rw [eq_map_holds_of_evaluate wellFormed evaluated]
    refine ⟨by simp, ?_⟩
    intro row bound
    simp [bound]
  · intro error
    rw [← failure?_evaluate, failure?_eq_some_iff]

/-- Visits, with a gap in each column and two kinds of scores. -/
def scoredVisits : Table :=
  { columns :=
      [⟨"score", [.integer 5, .integer 15, .null, .float 10]⟩,
       ⟨"label", [.text "a", .text "b", .text "c", .null]⟩]
    rowCount := 4 }

/-- A low score, or a label that is not listed; every score differs from an empty literal. -/
def lowOrUnlabelled : Condition :=
  .any
    [.compare "score" .lt (.integer 6),
     .all [.member "label" .without [.null, .text "a", .text "b"], .compare "score" .ne .null]]

/-- A condition of which the last two leaves fail, although the first one holds in every row. -/
def mislabelled : Condition :=
  .any
    [.compare "score" .ne .null,
     .all [.member "label" .within [.integer 1, .null], .compare "weight" .gt (.integer 0)]]

/-- Of two leaves that fail the first one is reported, although the condition would hold without
them. -/
theorem evaluate_leafwise_scoredVisits :
    scoredVisits.WellFormed ∧
      lowOrUnlabelled.evaluate scoredVisits = .ok [true, false, true, true] ∧
      (∀ leaf ∈ lowOrUnlabelled.leaves, ∃ mask, leaf.alone.evaluate scoredVisits = .ok mask) ∧
      (∀ row < 4, [true, false, true, true][row]? =
        some (lowOrUnlabelled.holds (scoredVisits.cellAt row))) ∧
      (mislabelled.failures scoredVisits).length = 2 ∧
      mislabelled.evaluate scoredVisits = .error (.mismatch "label" (.kind .integer) .text) := by
  have wellFormed : scoredVisits.WellFormed := ⟨by decide, by decide⟩
  have evaluated : lowOrUnlabelled.evaluate scoredVisits = .ok [true, false, true, true] := rfl
  obtain ⟨success, -, mask, -⟩ := evaluate_leafwise lowOrUnlabelled scoredVisits wellFormed
  obtain ⟨-, -, -, failure⟩ := evaluate_leafwise mislabelled scoredVisits wellFormed
  exact ⟨wellFormed, evaluated, success.1 ⟨_, evaluated⟩, (mask _ evaluated).2, rfl,
    (failure _).2 rfl⟩

end TableFlow.Condition
