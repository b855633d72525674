import TableFlow.Formula.Eval
import TableFlow.Proofs.Table.Rows

/-!
# Formulas on tables

A tree is evaluated on a table in two stages: its columns have to exist, and then every row gives a
value.  This module brings the first stage, which works on a list of names, back to the tree.
-/

namespace TableFlow.Formula

/-- The columns that a tree mentions exist in a table. -/
def Expr.ColumnsIn (table : Table) : Expr → Prop
  | .literal _ => True
  | .column name => table.hasColumn name = true
  | .binary _ left right => left.ColumnsIn table ∧ right.ColumnsIn table
  | .unary _ operand => operand.ColumnsIn table

namespace Expr

variable {name : String}

theorem mem_collectColumns (expr : Expr) (met : List String) :
    name ∈ expr.collectColumns met ↔ name ∈ expr.columns ∨ name ∈ met := by
  induction expr generalizing met with
  | literal cell => simp [collectColumns, columns]
  | column other =>
      simp only [collectColumns, columns]
      split <;> grind
  | binary op left right leftIH rightIH =>
      simp only [columns, collectColumns] at leftIH rightIH ⊢
      rw [rightIH (left.collectColumns met), leftIH met, rightIH (left.collectColumns []), or_assoc]
  | unary op operand ih => exact ih met

@[simp] theorem not_mem_columns_literal {cell : Cell} : name ∉ (literal cell).columns :=
  List.not_mem_nil

@[simp] theorem mem_columns_column {other : String} :
    name ∈ (column other).columns ↔ name = other := by
  simp [columns, collectColumns]

@[simp] theorem mem_columns_binary {op : BinaryOp} {left right : Expr} :
    name ∈ (binary op left right).columns ↔ name ∈ left.columns ∨ name ∈ right.columns := by
  rw [columns, collectColumns, mem_collectColumns, ← columns, or_comm]

@[simp] theorem mem_columns_unary {op : UnaryOp} {operand : Expr} :
    name ∈ (unary op operand).columns ↔ name ∈ operand.columns :=
  Iff.rfl

end Expr

variable {table : Table} {expr : Expr}

theorem bindColumns_eq_ok_iff {names : List String} :
    bindColumns table names = .ok () ↔ ∀ name ∈ names, table.hasColumn name = true := by
  induction names with
  | nil => simp [bindColumns]
  | cons name rest ih =>
      rw [bindColumns]
      split
      · rename_i known
        simp [ih, known]
      · rename_i unknown
        simp [unknown]

/-- The collected columns exist exactly when the ones met before and those of the tree do. -/
theorem Expr.forall_collectColumns_iff (expr : Expr) (met : List String) :
    (∀ name ∈ expr.collectColumns met, table.hasColumn name = true) ↔
      expr.ColumnsIn table ∧ ∀ name ∈ met, table.hasColumn name = true := by
  induction expr generalizing met with
  | literal cell => simp [collectColumns, ColumnsIn]
  | column other =>
      simp only [collectColumns, ColumnsIn]
      split
      · rename_i known
        simp only [List.contains_eq_mem, decide_eq_true_eq] at known
        constructor
        · intro each
          exact ⟨each other known, each⟩
        · intro both
          exact both.2
      · simp only [List.forall_mem_append, List.forall_mem_singleton]
        exact And.comm
  | binary op left right ihLeft ihRight =>
      simp only [collectColumns, ColumnsIn]
      rw [ihRight, ihLeft]
      constructor
      · rintro ⟨inRight, inLeft, rest⟩
        exact ⟨⟨inLeft, inRight⟩, rest⟩
      · rintro ⟨⟨inLeft, inRight⟩, rest⟩
        exact ⟨inRight, inLeft, rest⟩
  | unary op operand ih =>
      simp only [collectColumns, ColumnsIn]
      exact ih met

/-- A tree has values on a table if its columns exist and it has a value in every row. -/
theorem Expr.evalTable_eq_ok_map {value : Nat → Cell} (columns : expr.ColumnsIn table)
    (each : ∀ row < table.rowCount, expr.eval (table.cellAt row) = .ok (value row)) :
    expr.evalTable table = .ok ((List.range table.rowCount).map value) := by
  have bound : bindColumns table expr.columns = .ok () := by
    rw [bindColumns_eq_ok_iff, Expr.columns, forall_collectColumns_iff]
    exact ⟨columns, by simp⟩
  rw [evalTable, bound]
  exact mapM_eq_ok_map fun row membership => each row (List.mem_range.1 membership)

end TableFlow.Formula
