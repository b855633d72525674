import Mathlib.Data.List.Forall2
import Mathlib.Tactic.Choose
import TableFlow.Proofs.Condition.Leaves
import TableFlow.Proofs.Formula.Rows

/-!
# Conditions as formulas

A condition knows two truths and treats an empty cell as a special case; a formula knows a third
answer, the empty cell.  Every condition has a formula that asks the same, and as long as no leaf
asks for a difference, which an empty cell passes, the two say yes in the same rows: where the
condition says no, the formula says no or that it does not know.  `and` and `or` keep this relation,
so it holds of trees of any shape.

Main statement: `Condition.evalTable_toExpr`.
-/

namespace TableFlow

open TableFlow.Formula

/-- The operator of a formula for a comparison. -/
def Comparison.operator : Comparison → BinaryOp
  | .eq => .eq
  | .ne => .ne
  | .lt => .lt
  | .le => .le
  | .gt => .gt
  | .ge => .ge

/-- Trees joined by an operator from the left; without trees the literal that adds nothing. -/
def Formula.Expr.chain (op : BinaryOp) (neutral : Bool) : List Expr → Expr
  | [] => .literal (.boolean neutral)
  | first :: rest => rest.foldl (.binary op) first

namespace Condition

mutual

/-- The formula that asks the same as a condition. -/
def toExpr : Condition → Expr
  | .all children => .chain .and true (toExprs children)
  | .any children => .chain .or false (toExprs children)
  | .compare name operator value => .binary operator.operator (.column name) (.literal value)
  | .member name .within values =>
      .chain .or false (values.map fun value => .binary .eq (.column name) (.literal value))
  | .member name .without values =>
      .unary .not
        (.chain .or false (values.map fun value => .binary .eq (.column name) (.literal value)))
  | .null name .isNull => .unary .isNull (.column name)
  | .null name .notNull => .unary .isNotNull (.column name)

/-- The formulas of some conditions. -/
def toExprs : List Condition → List Expr
  | [] => []
  | child :: rest => child.toExpr :: toExprs rest

end

mutual

/-- No leaf of a condition asks for a difference. -/
def isPositive : Condition → Bool
  | .all children => allPositive children
  | .any children => allPositive children
  | .compare _ operator _ => operator != .ne
  | .member _ operator _ => operator != .without
  | .null _ _ => true

/-- No leaf of some conditions asks for a difference. -/
def allPositive : List Condition → Bool
  | [] => true
  | child :: rest => child.isPositive && allPositive rest

end

end Condition

/-- A cell answers a question of yes or no: it tells the truth, or leaves a no unknown. -/
inductive Cell.Answers : Cell → Bool → Prop where
  | known (truth : Bool) : Answers (.boolean truth) truth
  | unknown : Answers .null false

theorem Cell.answers_iff {cell : Cell} {truth : Bool} :
    cell.Answers truth ↔
      (cell = .null ∨ ∃ value, cell = .boolean value) ∧ (truth = true ↔ cell = .boolean true) := by
  constructor
  · intro answers
    cases answers with
    | known truth => simp
    | unknown => simp
  · rintro ⟨rfl | ⟨value, rfl⟩, same⟩
    · cases truth with
      | false => exact .unknown
      | true => simp at same
    · have truthEq : truth = value := by
        cases truth <;> cases value <;> simp_all
      exact truthEq ▸ .known value

/-- The value of a tree in a row answers a question. -/
def Formula.Expr.Tells (row : String → Cell) (expr : Expr) (truth : Bool) : Prop :=
  ∃ cell, expr.eval row = .ok cell ∧ cell.Answers truth

/-- An operator joins answers as an operation joins truths. -/
def Formula.BinaryOp.Joins (op : BinaryOp) (combine : Bool → Bool → Bool) : Prop :=
  ∀ {left right : Cell} {first second : Bool}, left.Answers first → right.Answers second →
    ∃ cell, evalBinary op left right = .ok cell ∧ cell.Answers (combine first second)

theorem Formula.BinaryOp.joins_and : BinaryOp.Joins .and (· && ·) := by
  rintro _ _ _ _ (⟨_ | _⟩ | _) (⟨_ | _⟩ | _) <;> exact ⟨_, rfl, by constructor⟩

theorem Formula.BinaryOp.joins_or : BinaryOp.Joins .or (· || ·) := by
  rintro _ _ _ _ (⟨_ | _⟩ | _) (⟨_ | _⟩ | _) <;> exact ⟨_, rfl, by constructor⟩

namespace Formula.Expr

variable {row : String → Cell} {op : BinaryOp} {combine : Bool → Bool → Bool}

theorem tells_foldl (joins : op.Joins combine) {exprs : List Expr} {truths : List Bool}
    (each : List.Forall₂ (Tells row) exprs truths) {first : Expr} {start : Bool}
    (told : first.Tells row start) :
    (exprs.foldl (.binary op) first).Tells row (truths.foldl combine start) := by
  induction each generalizing first start with
  | nil => exact told
  | cons head tail ih =>
      obtain ⟨left, leftEval, leftAnswers⟩ := told
      obtain ⟨right, rightEval, rightAnswers⟩ := head
      obtain ⟨cell, joined, answers⟩ := joins leftAnswers rightAnswers
      apply ih
      refine ⟨cell, ?_, answers⟩
      simp only [eval, leftEval, rightEval, joined]

/-- A chain tells what its trees tell together. -/
theorem tells_chain (joins : op.Joins combine) {neutral : Bool}
    (combine_neutral : ∀ truth, combine neutral truth = truth) {exprs : List Expr}
    {truths : List Bool} (each : List.Forall₂ (Tells row) exprs truths) :
    (chain op neutral exprs).Tells row (truths.foldl combine neutral) := by
  cases each with
  | nil => exact ⟨_, rfl, .known neutral⟩
  | cons head tail =>
      rw [List.foldl_cons, combine_neutral]
      exact tells_foldl joins tail head

theorem columnsIn_chain {table : Table} {neutral : Bool} {exprs : List Expr}
    (each : ∀ expr ∈ exprs, expr.ColumnsIn table) : (chain op neutral exprs).ColumnsIn table := by
  have columnsIn_foldl (first : Expr) (rest : List Expr) (here : first.ColumnsIn table)
      (there : ∀ expr ∈ rest, expr.ColumnsIn table) :
      (rest.foldl (.binary op) first).ColumnsIn table := by
    induction rest generalizing first with
    | nil => exact here
    | cons expr rest ih =>
        rw [List.forall_mem_cons] at there
        exact ih _ ⟨here, there.1⟩ there.2
  cases exprs with
  | nil => exact True.intro
  | cons first rest =>
      rw [List.forall_mem_cons] at each
      exact columnsIn_foldl first rest each.1 each.2

end Formula.Expr

namespace Condition

variable {row : String → Cell}

/-- An operator that is no connective gives an empty cell for an empty operand. -/
theorem evalBinary_operator_null (operator : Comparison) {left right : Cell}
    (null : (left.isNull || right.isNull) = true) :
    evalBinary operator.operator left right = .ok .null := by
  rw [evalBinary, if_pos null]
  cases operator <;> rfl

theorem tells_equal (name : String) (value : Cell) :
    (Expr.binary .eq (.column name) (.literal value)).Tells row
      ((row name).compare? value == some .eq) := by
  cases null : (row name).isNull || value.isNull with
  | true =>
      refine ⟨.null, evalBinary_operator_null .eq null, ?_⟩
      have different : ((row name).compare? value == some .eq) = false := by
        rcases Bool.or_eq_true_iff.1 null with left | right
        · simp [Cell.isNull_eq_true_iff.1 left]
        · simp [Cell.isNull_eq_true_iff.1 right]
      rw [different]
      exact .unknown
  | false =>
      refine ⟨.boolean ((row name).compare? value == some .eq), ?_, .known _⟩
      simp [Expr.eval, evalBinary, null, applyBinary]

theorem tells_compare {name : String} {operator : Comparison} {value : Cell} {truth : Bool}
    (positive : operator ≠ .ne) (tested : compareCell name operator value (row name) = .ok truth) :
    (Expr.binary operator.operator (.column name) (.literal value)).Tells row truth := by
  rw [compareCell] at tested
  split at tested
  · rename_i null
    cases tested
    refine ⟨.null, evalBinary_operator_null operator null, ?_⟩
    rw [beq_eq_false_iff_ne.2 positive]
    exact .unknown
  · rename_i notNull
    split at tested
    · rename_i ordering compared
      cases tested
      refine ⟨.boolean (operator.holds ordering), ?_, .known _⟩
      simp only [Expr.eval, evalBinary, if_neg notNull]
      cases operator <;>
        simp_all [Comparison.operator, applyBinary, ordered, Comparison.holds]
    · cases tested

/-- A cell is found among some values exactly if it compares equal to one of them. -/
theorem memberCell_within {name : String} {values : List Cell} {cell : Cell} {truth : Bool}
    (tested : memberCell name .within values cell = .ok truth) :
    truth = values.any fun value => cell.compare? value == some .eq := by
  rw [(memberCell_eq_ok_iff.1 tested).2, Leaf.passes]
  split
  · rename_i null
    have unequal : (values.any fun value => cell.compare? value == some .eq) = false := by
      simp [Cell.isNull_eq_true_iff.1 null]
    rw [unequal]
    rfl
  · simp

theorem foldl_or (start : Bool) (truths : List Bool) :
    truths.foldl (· || ·) start = (start || truths.any id) := by
  induction truths generalizing start with
  | nil => rw [List.foldl_nil, List.any_nil, Bool.or_false]
  | cons truth rest ih => rw [List.foldl_cons, ih, List.any_cons, Bool.or_assoc, id]

theorem exists_of_testAll {combine : Bool → Bool → Bool} {start total : Bool}
    {children : List Condition} (tested : testAll row combine start children = .ok total) :
    ∃ truths, List.Forall₂ (fun child truth => child.test row = .ok truth) children truths ∧
      total = truths.foldl combine start := by
  induction children generalizing start with
  | nil =>
      cases tested
      exact ⟨[], .nil, rfl⟩
  | cons child rest ih =>
      rw [testAll] at tested
      split at tested
      · cases tested
      · rename_i truth here
        obtain ⟨truths, there, totalEq⟩ := ih tested
        exact ⟨truth :: truths, .cons here there, totalEq⟩

mutual

/-- The formula of a condition tells, in every row in which the condition has a truth, this
truth. -/
theorem tells_toExpr :
    (condition : Condition) → condition.isPositive = true → {truth : Bool} →
    condition.test row = .ok truth → condition.toExpr.Tells row truth
  | .all children, positive, truth, tested => by
      obtain ⟨truths, each, rfl⟩ := exists_of_testAll tested
      exact Expr.tells_chain BinaryOp.joins_and Bool.true_and (tells_toExprs children positive each)
  | .any children, positive, truth, tested => by
      obtain ⟨truths, each, rfl⟩ := exists_of_testAll tested
      exact Expr.tells_chain BinaryOp.joins_or Bool.false_or (tells_toExprs children positive each)
  | .compare name operator value, positive, truth, tested => by
      rw [isPositive, bne_iff_ne] at positive
      exact tells_compare positive tested
  | .member name .within values, positive, truth, tested => by
      have found : List.foldl (· || ·) false
          (values.map fun value => (row name).compare? value == some .eq) = truth := by
        rw [memberCell_within tested, foldl_or, List.any_map, Bool.false_or, Function.id_comp]
      rw [← found]
      apply Expr.tells_chain BinaryOp.joins_or Bool.false_or
      rw [List.forall₂_map_left_iff, List.forall₂_map_right_iff, List.forall₂_same]
      exact fun value _ => tells_equal name value
  | .null name .isNull, _, truth, tested => by
      cases tested
      exact ⟨_, rfl, .known _⟩
  | .null name .notNull, _, truth, tested => by
      cases tested
      exact ⟨_, rfl, .known _⟩

theorem tells_toExprs :
    (children : List Condition) → allPositive children = true → {truths : List Bool} →
    List.Forall₂ (fun child truth => child.test row = .ok truth) children truths →
    List.Forall₂ (Expr.Tells row) (toExprs children) truths
  | [], _, _, .nil => .nil
  | child :: rest, positive, _, .cons here there => by
      rw [allPositive, Bool.and_eq_true] at positive
      exact .cons (tells_toExpr child positive.1 here) (tells_toExprs rest positive.2 there)

end

variable {table : Table}

mutual

/-- The columns that a formula mentions are those that its condition has to find. -/
theorem columnsIn_toExpr :
    (condition : Condition) → {mask : List Bool} → condition.evaluate table = .ok mask →
    condition.toExpr.ColumnsIn table
  | .all children, mask, evaluated => by
      rw [evaluate] at evaluated
      exact Expr.columnsIn_chain (columnsIn_toExprs children evaluated)
  | .any children, mask, evaluated => by
      rw [evaluate] at evaluated
      exact Expr.columnsIn_chain (columnsIn_toExprs children evaluated)
  | .compare name operator value, mask, evaluated => by
      rw [evaluate] at evaluated
      split at evaluated
      · cases evaluated
      · rename_i column found
        exact ⟨Table.hasColumn_of_column found, True.intro⟩
  | .member name operator values, mask, evaluated => by
      rw [evaluate] at evaluated
      split at evaluated
      · cases evaluated
      · rename_i column found
        have chained : (Expr.chain .or false (values.map fun value =>
            .binary .eq (.column name) (.literal value))).ColumnsIn table := by
          apply Expr.columnsIn_chain
          rw [List.forall_mem_map]
          exact fun value _ => ⟨Table.hasColumn_of_column found, True.intro⟩
        cases operator with
        | within => exact chained
        | without => exact chained
  | .null name test, mask, evaluated => by
      rw [evaluate] at evaluated
      split at evaluated
      · cases evaluated
      · rename_i column found
        cases test with
        | isNull => exact Table.hasColumn_of_column found
        | notNull => exact Table.hasColumn_of_column found

theorem columnsIn_toExprs {op : Bool → Bool → Bool} :
    (children : List Condition) → {start mask : List Bool} →
    evaluateAll table op start children = .ok mask →
    ∀ expr ∈ toExprs children, expr.ColumnsIn table
  | [], _, _, _ => by simp [toExprs]
  | child :: rest, start, mask, evaluated => by
      rw [evaluateAll] at evaluated
      split at evaluated
      · cases evaluated
      · rename_i next childEvaluated
        rw [toExprs, List.forall_mem_cons]
        exact ⟨columnsIn_toExpr child childEvaluated, columnsIn_toExprs rest evaluated⟩

end

/-- A condition in which no leaf asks for a difference and its formula say yes in the same rows.  If
the condition can be evaluated on a table, so can the formula; each of its values is a truth or
unknown, and it is a yes exactly where the mask of the condition is true. -/
theorem evalTable_toExpr (condition : Condition) (table : Table) (wellFormed : table.WellFormed)
    (positive : condition.isPositive = true) (mask : List Bool)
    (evaluated : condition.evaluate table = .ok mask) :
    ∃ cells, condition.toExpr.evalTable table = .ok cells ∧
      mask.length = table.rowCount ∧ cells.length = table.rowCount ∧
      ∀ (row : Nat) (truth : Bool) (cell : Cell), mask[row]? = some truth →
        cells[row]? = some cell →
        (cell = .null ∨ ∃ value, cell = .boolean value) ∧
        (truth = true ↔ cell = .boolean true) := by
  obtain ⟨truth, rfl, tested⟩ := test_of_evaluate wellFormed condition evaluated
  have told (row : Nat) (bound : row < table.rowCount) :
      ∃ cell, condition.toExpr.eval (table.cellAt row) = .ok cell ∧ cell.Answers (truth row) :=
    tells_toExpr condition positive (tested row bound)
  have inhabited : Nonempty Cell := ⟨.null⟩
  choose! value each answers using told
  refine ⟨_, Expr.evalTable_eq_ok_map (columnsIn_toExpr condition evaluated) each, by simp, by simp,
    ?_⟩
  intro row _ _ inMask inCells
  rw [List.getElem?_map, Option.map_eq_some_iff] at inMask inCells
  obtain ⟨index, found, rfl⟩ := inMask
  obtain ⟨other, foundOther, rfl⟩ := inCells
  obtain ⟨bound, rfl⟩ := List.getElem?_eq_some_iff.1 found
  obtain ⟨_, rfl⟩ := List.getElem?_eq_some_iff.1 foundOther
  rw [List.length_range] at bound
  rw [List.getElem_range, ← Cell.answers_iff]
  exact answers row bound

/-- Orders with gaps in both columns. -/
def gappyOrders : Table :=
  { columns :=
      [⟨"amount", [.integer 5, .null, .integer (-2), .null]⟩,
       ⟨"state", [.text "open", .text "open", .null, .text "closed"]⟩]
    rowCount := 4 }

/-- Positive amounts in a state that is listed, or no state; the list has an empty cell of its
own. -/
def openOrUnfiled : Condition :=
  .any
    [.all [.compare "amount" .gt (.integer 0), .member "state" .within [.null, .text "open"]],
     .null "state" .isNull]

/-- Where the amount is missing the condition does not hold, and the formula is not true. -/
theorem evalTable_toExpr_openOrUnfiled :
    gappyOrders.WellFormed ∧ openOrUnfiled.isPositive = true ∧
      openOrUnfiled.evaluate gappyOrders = .ok [true, false, true, false] ∧
      ∃ cells, openOrUnfiled.toExpr.evalTable gappyOrders = .ok cells ∧ cells.length = 4 ∧
        ∀ (row : Nat) (truth : Bool) (cell : Cell),
          [true, false, true, false][row]? = some truth → cells[row]? = some cell →
            (cell = .null ∨ ∃ value, cell = .boolean value) ∧
              (truth = true ↔ cell = .boolean true) := by
  have wellFormed : gappyOrders.WellFormed := ⟨by decide, by decide⟩
  have evaluated : openOrUnfiled.evaluate gappyOrders = .ok [true, false, true, false] := rfl
  obtain ⟨cells, answered, -, length, agree⟩ :=
    evalTable_toExpr openOrUnfiled gappyOrders wellFormed rfl _ evaluated
  exact ⟨wellFormed, rfl, evaluated, cells, answered, length, agree⟩

end Condition

end TableFlow
