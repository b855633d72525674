import TableFlow.Formula.Eval
import TableFlow.Proofs.Number.Word

/-!
# Formulas on integers

A formula of sums, differences, products and signs over integers has an exact value, a whole number
of any size.  Evaluation works on words of 64 bits.  It gives the exact value as long as every part
of the formula has one that fits, and fails otherwise.  Empty cells only hide values: a part with an
empty leaf is empty, but the parts next to it and below it are computed all the same and may still
fail.

Main statement: `Expr.eval_integral`.
-/

namespace TableFlow

/-- A cell that is empty or holds an integer. -/
inductive Cell.IsWhole : Cell → Prop where
  | null : IsWhole .null
  | integer (word : Int64) : IsWhole (.integer word)

/-- The integer of a cell; other cells count as zero. -/
def Cell.whole : Cell → Int
  | .integer word => word.toInt
  | _ => 0

namespace Formula

open TableFlow.Number

/-- Addition, subtraction and multiplication. -/
inductive BinaryOp.IsRing : BinaryOp → Prop where
  | add : IsRing .add
  | sub : IsRing .sub
  | mul : IsRing .mul

inductive UnaryOp.IsSign : UnaryOp → Prop where
  | plus : IsSign .plus
  | minus : IsSign .minus

/-- The exact result of an operator on two integers; zero for operators of another kind. -/
def BinaryOp.exact : BinaryOp → Int → Int → Int
  | .add, left, right => left + right
  | .sub, left, right => left - right
  | .mul, left, right => left * right
  | _, _, _ => 0

/-- The exact result of an operator on one integer; zero for operators of another kind. -/
def UnaryOp.exact : UnaryOp → Int → Int
  | .plus, operand => operand
  | .minus, operand => -operand
  | _, _ => 0

namespace Expr

/-- The cells at the leaves of a tree in a row. -/
def leaves (row : String → Cell) : Expr → List Cell
  | .literal cell => [cell]
  | .column name => [row name]
  | .binary _ left right => left.leaves row ++ right.leaves row
  | .unary _ operand => operand.leaves row

/-- All subtrees of a tree, itself among them. -/
def parts : Expr → List Expr
  | .literal cell => [.literal cell]
  | .column name => [.column name]
  | .binary op left right => .binary op left right :: (left.parts ++ right.parts)
  | .unary op operand => .unary op operand :: operand.parts

/-- The exact value of a tree in a row. -/
def exact (row : String → Cell) : Expr → Int
  | .literal cell => cell.whole
  | .column name => (row name).whole
  | .binary op left right => op.exact (left.exact row) (right.exact row)
  | .unary op operand => op.exact (operand.exact row)

/-- A tree of sums, differences, products and signs over integers and empty cells. -/
def IsIntegral (row : String → Cell) : Expr → Prop
  | .literal cell => cell.IsWhole
  | .column name => (row name).IsWhole
  | .binary op left right => op.IsRing ∧ left.IsIntegral row ∧ right.IsIntegral row
  | .unary op operand => op.IsSign ∧ operand.IsIntegral row

/-- Every part of a tree without an empty leaf has an exact value of 64 bits. -/
def Fits (row : String → Cell) (expr : Expr) : Prop :=
  ∀ part ∈ expr.parts, .null ∉ part.leaves row → IsWord (part.exact row)

end Expr

/-- The word of an exact value, or the failure of an operator. -/
def checked (symbol : String) (value : Int) : Except FormulaError Cell :=
  match word? value with
  | some word => .ok (.integer word)
  | none => .error (.overflow symbol)

theorem checked_of_isWord {symbol : String} {value : Int} (fits : IsWord value) :
    ∃ word : Int64, word.toInt = value ∧ checked symbol value = .ok (.integer word) := by
  cases found : word? value with
  | none => exact absurd fits (word?_eq_none_iff.1 found)
  | some word => exact ⟨word, toInt_of_word? found, by rw [checked, found]⟩

theorem checked_of_not_isWord {symbol : String} {value : Int} (wide : ¬ IsWord value) :
    checked symbol value = .error (.overflow symbol) := by
  rw [checked, word?_eq_none_iff.2 wide]

section Operators

variable {op : BinaryOp} {sign : UnaryOp}

theorem evalBinary_integers (ring : op.IsRing) (left right : Int64) :
    evalBinary op (.integer left) (.integer right) =
      checked op.symbol (op.exact left.toInt right.toInt) := by
  cases ring <;> rfl

theorem evalBinary_null (ring : op.IsRing) {left right : Cell}
    (empty : left = .null ∨ right = .null) :
    evalBinary op left right = .ok .null := by
  have null : (left.isNull || right.isNull) = true := by
    rcases empty with rfl | rfl
    · rfl
    · exact Bool.or_true _
  rw [evalBinary, if_pos null]
  cases ring <;> rfl

theorem evalUnary_integer (isSign : sign.IsSign) (operand : Int64) :
    evalUnary sign (.integer operand) = checked sign.symbol (sign.exact operand.toInt) := by
  cases isSign with
  | plus =>
    -- A plus is not checked: its operand is a word already.
    show Except.ok (Cell.integer operand) = checked _ operand.toInt
    rw [checked, word?_toInt]
  | minus => rfl

theorem evalUnary_null (isSign : sign.IsSign) : evalUnary sign .null = .ok .null := by
  cases isSign <;> rfl

end Operators

namespace Expr

/-- The value of a tree as a cell: empty if a leaf is, and otherwise the exact integer. -/
inductive HasValue (row : String → Cell) (expr : Expr) : Cell → Prop where
  | null : .null ∈ expr.leaves row → HasValue row expr .null
  | integer {word : Int64} : .null ∉ expr.leaves row → word.toInt = expr.exact row →
      HasValue row expr (.integer word)

section Steps

variable {row : String → Cell} {op : BinaryOp} {sign : UnaryOp} {left right operand : Expr}
  {first second cell : Cell}

theorem fits_binary_iff :
    (Expr.binary op left right).Fits row ↔
      (.null ∉ (Expr.binary op left right).leaves row →
        IsWord ((Expr.binary op left right).exact row)) ∧ left.Fits row ∧ right.Fits row := by
  rw [Fits, parts, List.forall_mem_cons, List.forall_mem_append]
  rfl

theorem fits_unary_iff :
    (Expr.unary sign operand).Fits row ↔
      (.null ∉ (Expr.unary sign operand).leaves row →
        IsWord ((Expr.unary sign operand).exact row)) ∧
        operand.Fits row := by
  rw [Fits, parts, List.forall_mem_cons]
  rfl

theorem null_mem_leaves_binary_iff :
    .null ∈ (Expr.binary op left right).leaves row ↔
      .null ∈ left.leaves row ∨ .null ∈ right.leaves row :=
  List.mem_append

/-- A leaf is its own value. -/
theorem hasValue_of_isWhole {leaf : Expr} (leaves_eq : leaf.leaves row = [cell])
    (exact_eq : leaf.exact row = cell.whole) (whole : cell.IsWhole) : leaf.HasValue row cell := by
  cases whole with
  | null => exact .null (by rw [leaves_eq]; exact List.mem_singleton_self _)
  | integer word =>
    refine .integer ?_ exact_eq.symm
    rw [leaves_eq, List.mem_singleton]
    intro same
    cases same

theorem fits_leaf {leaf : Expr} (parts_eq : leaf.parts = [leaf])
    (leaves_eq : leaf.leaves row = [cell])
    (exact_eq : leaf.exact row = cell.whole) (whole : cell.IsWhole) : leaf.Fits row := by
  rw [Fits, parts_eq, List.forall_mem_singleton]
  intro full
  cases hasValue_of_isWhole leaves_eq exact_eq whole with
  | null empty => exact absurd empty full
  | integer _ word_eq => exact word_eq ▸ isWord_toInt _

/-- What an operator gives on the values of its operands: the value of the whole tree if it fits. -/
def Yields (row : String → Cell) (expr : Expr) (result : Except FormulaError Cell) : Prop :=
  (.null ∈ expr.leaves row ∧ result = .ok .null) ∨
    (.null ∉ expr.leaves row ∧ ∃ symbol, result = checked symbol (expr.exact row))

theorem HasValue.yields_binary (leftValue : left.HasValue row first)
    (rightValue : right.HasValue row second) (ring : op.IsRing) :
    (Expr.binary op left right).Yields row (evalBinary op first second) := by
  rw [Yields, null_mem_leaves_binary_iff]
  cases leftValue with
  | null empty => exact .inl ⟨.inl empty, evalBinary_null ring (.inl rfl)⟩
  | integer leftFull leftExact =>
    cases rightValue with
    | null empty => exact .inl ⟨.inr empty, evalBinary_null ring (.inr rfl)⟩
    | integer rightFull rightExact =>
      refine .inr ⟨not_or.2 ⟨leftFull, rightFull⟩, op.symbol, ?_⟩
      rw [evalBinary_integers ring, leftExact, rightExact, exact]

theorem HasValue.yields_unary (value : operand.HasValue row cell) (isSign : sign.IsSign) :
    (Expr.unary sign operand).Yields row (evalUnary sign cell) := by
  cases value with
  | null empty => exact .inl ⟨empty, evalUnary_null isSign⟩
  | integer full exactValue =>
    refine .inr ⟨full, sign.symbol, ?_⟩
    rw [evalUnary_integer isSign, exactValue, exact]

theorem Yields.exists_hasValue {expr : Expr} {result : Except FormulaError Cell}
    (yields : expr.Yields row result) (fits : .null ∉ expr.leaves row → IsWord (expr.exact row)) :
    ∃ cell, result = .ok cell ∧ expr.HasValue row cell := by
  obtain ⟨empty, rfl⟩ | ⟨full, symbol, rfl⟩ := yields
  · exact ⟨.null, rfl, .null empty⟩
  · obtain ⟨word, word_eq, checked_eq⟩ := checked_of_isWord (fits full)
    exact ⟨.integer word, checked_eq, .integer full word_eq⟩

theorem Yields.overflows {expr : Expr} {result : Except FormulaError Cell}
    (yields : expr.Yields row result) (full : .null ∉ expr.leaves row)
    (wide : ¬ IsWord (expr.exact row)) : ∃ symbol, result = .error (.overflow symbol) := by
  obtain ⟨empty, -⟩ | ⟨-, symbol, rfl⟩ := yields
  · exact absurd empty full
  · exact ⟨symbol, checked_of_not_isWord wide⟩

end Steps

section Runs

variable {row : String → Cell} {expr : Expr}

theorem not_fits_iff :
    ¬ expr.Fits row ↔ ∃ part ∈ expr.parts, .null ∉ part.leaves row ∧ ¬ IsWord (part.exact row) := by
  simp only [Fits, Classical.not_forall, exists_prop]

theorem eval_of_fits (integral : expr.IsIntegral row) (fits : expr.Fits row) :
    ∃ cell, expr.eval row = .ok cell ∧ expr.HasValue row cell := by
  induction expr with
  | literal cell => exact ⟨cell, rfl, hasValue_of_isWhole rfl rfl integral⟩
  | column name => exact ⟨row name, rfl, hasValue_of_isWhole rfl rfl integral⟩
  | binary op left right leftIh rightIh =>
    obtain ⟨ring, leftIntegral, rightIntegral⟩ := integral
    obtain ⟨wholeFits, leftFits, rightFits⟩ := fits_binary_iff.1 fits
    obtain ⟨first, leftEval, leftValue⟩ := leftIh leftIntegral leftFits
    obtain ⟨second, rightEval, rightValue⟩ := rightIh rightIntegral rightFits
    simp only [eval, leftEval, rightEval]
    exact (leftValue.yields_binary rightValue ring).exists_hasValue wholeFits
  | unary op operand ih =>
    obtain ⟨isSign, operandIntegral⟩ := integral
    obtain ⟨wholeFits, operandFits⟩ := fits_unary_iff.1 fits
    obtain ⟨cell, operandEval, value⟩ := ih operandIntegral operandFits
    simp only [eval, operandEval]
    exact (value.yields_unary isSign).exists_hasValue wholeFits

/-- The first part that does not fit, in the order of evaluation, ends the evaluation. -/
theorem eval_of_not_fits (integral : expr.IsIntegral row) (wide : ¬ expr.Fits row) :
    ∃ symbol, expr.eval row = .error (.overflow symbol) := by
  induction expr with
  | literal cell => exact absurd (fits_leaf rfl rfl rfl integral) wide
  | column name => exact absurd (fits_leaf rfl rfl rfl integral) wide
  | binary op left right leftIh rightIh =>
    obtain ⟨ring, leftIntegral, rightIntegral⟩ := integral
    by_cases leftFits : left.Fits row
    · obtain ⟨first, leftEval, leftValue⟩ := eval_of_fits leftIntegral leftFits
      by_cases rightFits : right.Fits row
      · obtain ⟨second, rightEval, rightValue⟩ := eval_of_fits rightIntegral rightFits
        simp only [eval, leftEval, rightEval]
        rw [fits_binary_iff, and_iff_left ⟨leftFits, rightFits⟩, Classical.not_imp] at wide
        exact (leftValue.yields_binary rightValue ring).overflows wide.1 wide.2
      · obtain ⟨symbol, rightEval⟩ := rightIh rightIntegral rightFits
        exact ⟨symbol, by simp only [eval, leftEval, rightEval]⟩
    · obtain ⟨symbol, leftEval⟩ := leftIh leftIntegral leftFits
      exact ⟨symbol, by simp only [eval, leftEval]⟩
  | unary op operand ih =>
    obtain ⟨isSign, operandIntegral⟩ := integral
    by_cases operandFits : operand.Fits row
    · obtain ⟨cell, operandEval, value⟩ := eval_of_fits operandIntegral operandFits
      simp only [eval, operandEval]
      rw [fits_unary_iff, and_iff_left operandFits, Classical.not_imp] at wide
      exact (value.yields_unary isSign).overflows wide.1 wide.2
    · obtain ⟨symbol, operandEval⟩ := ih operandIntegral operandFits
      exact ⟨symbol, by simp only [eval, operandEval]⟩

/-- A formula on integers fails exactly if some part of it without an empty leaf has an exact value
that needs more than 64 bits, wherever that part stands.  Otherwise it is empty if it has an empty
leaf, and its exact value if it has none. -/
theorem eval_integral (integral : expr.IsIntegral row) :
    ((∃ symbol, expr.eval row = .error (.overflow symbol)) ↔
        ∃ part ∈ expr.parts, .null ∉ part.leaves row ∧ ¬ IsWord (part.exact row)) ∧
      ((∀ symbol, expr.eval row ≠ .error (.overflow symbol)) →
        (.null ∈ expr.leaves row → expr.eval row = .ok .null) ∧
          (.null ∉ expr.leaves row →
            ∃ word : Int64,
              word.toInt = expr.exact row ∧ expr.eval row = .ok (.integer word))) := by
  rw [← not_fits_iff]
  by_cases fits : expr.Fits row
  · obtain ⟨cell, evaluates, value⟩ := eval_of_fits integral fits
    rw [evaluates]
    refine ⟨iff_of_false ?_ (not_not_intro fits), fun _ => ?_⟩
    · rintro ⟨symbol, fails⟩
      cases fails
    · cases value with
      | null empty => exact ⟨fun _ => rfl, fun full => absurd empty full⟩
      | integer full word_eq => exact ⟨fun empty => absurd empty full, fun _ => ⟨_, word_eq, rfl⟩⟩
  · obtain ⟨symbol, fails⟩ := eval_of_not_fits integral fits
    exact ⟨iff_of_true ⟨symbol, fails⟩ fits, fun succeeds => absurd fails (succeeds symbol)⟩

end Runs

/-- The price of a stock with one more item. -/
def restocked : Expr :=
  .binary .mul (.binary .add (.column "stock") (.literal (.integer 1))) (.column "price")

/-- A row with the greatest stock and no price. -/
def fullStock (name : String) : Cell :=
  if name = "stock" then .integer Int64.maxValue else .null

/-- The missing price hides the product, but not that the sum below it is out of range. -/
theorem eval_integral_fullStock :
    restocked.IsIntegral fullStock ∧ .null ∈ restocked.leaves fullStock ∧
      ∃ symbol, restocked.eval fullStock = .error (.overflow symbol) := by
  have integral : restocked.IsIntegral fullStock := ⟨.mul, ⟨.add, .integer _, .integer _⟩, .null⟩
  refine ⟨integral, by simp [restocked, leaves, fullStock], (eval_integral integral).1.2 ?_⟩
  refine ⟨.binary .add (.column "stock") (.literal (.integer 1)), ?_, ?_, by decide⟩
  · exact List.mem_cons_of_mem _ List.mem_cons_self
  · simp [leaves, fullStock]

end Expr

end Formula

end TableFlow
