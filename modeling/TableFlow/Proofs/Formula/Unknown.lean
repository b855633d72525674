import TableFlow.Proofs.Cell.Zeros
import TableFlow.Proofs.Formula.Rows

/-!
# Empty cells as unknown values

An empty cell says nothing about the value it stands for, so it approximates every cell.  Filling in
empty cells of a row cannot change a value that a formula has without them: the value before
approximates the value after, if there are both.  Only the tests for empty cells break this, as they
look at the cell itself.

One operator at a time, there are two cases.  With an empty operand the result is empty, or the
other operand decides it and still does.  Without one the operands are equal before and after, and
operators do not tell equal cells apart.

Main statement: `Expr.eval_approximates`.
-/

namespace TableFlow

/-- A cell that says no more than another: it is empty or equal to it. -/
def Cell.Approximates (known cell : Cell) : Prop :=
  known = .null ∨ known.Equals cell

theorem Cell.Approximates.eq_boolean {value : Bool} {cell : Cell}
    (less : (Cell.boolean value).Approximates cell) : cell = .boolean value := by
  rcases less with null | equal
  · cases null
  · cases equal
    rfl

namespace Formula

/-- Results that are equal values or one error. -/
inductive Similar : Except FormulaError Cell → Except FormulaError Cell → Prop where
  | ok {left right : Cell} (equal : left.Equals right) : Similar (.ok left) (.ok right)
  | error (error : FormulaError) : Similar (.error error) (.error error)

namespace Similar

theorem refl (result : Except FormulaError Cell) : Similar result result := by
  cases result with
  | ok cell => exact .ok (Cell.equals_self cell)
  | error error => exact .error error

theorem equivalence : Equivalence Similar where
  refl := refl
  symm := by
    rintro _ _ (equal | error)
    · exact .ok equal.symm
    · exact .error error
  trans := by
    rintro _ _ _ (before | error) after
    · cases after with
      | ok after => exact .ok (before.trans after)
    · exact after

theorem approximates {known cell : Cell} (similar : Similar (.ok known) (.ok cell)) :
    known.Approximates cell := by
  cases similar with
  | ok equal => exact .inr equal

end Similar

section Operators

variable {op : BinaryOp}

theorem number?_float (value : Float) : (Cell.float value).number? = some value :=
  rfl

theorem arithmetic_zeros_left (onInts : Int64 → Int64 → Option Int64)
    {onFloats : Float → Float → Float}
    (zeros : ∀ value, (Cell.float (onFloats 0 value)).Equals (.float (onFloats (-0) value)))
    (right : Cell) :
    Similar (arithmetic op onInts onFloats (.float 0) right)
      (arithmetic op onInts onFloats (.float (-0)) right) := by
  cases right with
  | integer word => exact .ok (zeros _)
  | float value => exact .ok (zeros _)
  | _ => exact .error _

theorem arithmetic_zeros_right (onInts : Int64 → Int64 → Option Int64)
    {onFloats : Float → Float → Float}
    (zeros : ∀ value, (Cell.float (onFloats value 0)).Equals (.float (onFloats value (-0))))
    (left : Cell) :
    Similar (arithmetic op onInts onFloats left (.float 0))
      (arithmetic op onInts onFloats left (.float (-0))) := by
  cases left with
  | integer word => exact .ok (zeros _)
  | float value => exact .ok (zeros _)
  | _ => exact .error _

theorem ordered_zeros_left (test : Ordering → Bool) (right : Cell) :
    Similar (ordered op test (.float 0) right) (ordered op test (.float (-0)) right) := by
  rw [ordered, ordered, Cell.compare?_zeros_left]
  exact .refl _

theorem ordered_zeros_right (test : Ordering → Bool) (left : Cell) :
    Similar (ordered op test left (.float 0)) (ordered op test left (.float (-0))) := by
  rw [ordered, ordered, Cell.compare?_zeros_right]
  exact .refl _

theorem equals_flooredFloatRem_zeros (divisor : Float) :
    (Cell.float (flooredFloatRem 0 divisor)).Equals (.float (flooredFloatRem (-0) divisor)) := by
  have rest := Number.equals_remainder_zeros divisor
  have sum := rest.map_float (· + divisor) (Number.keepsZeros_add.left divisor)
  exact sum.map_float (Number.remainder · divisor) (Number.equals_remainder_zeros divisor)

theorem float_kind?_ne_text {value : Float} : (Cell.float value).kind? ≠ some .text := by
  simp [Cell.kind?]

/-- A sum is arithmetic unless both operands are texts. -/
theorem applyBinary_add {left right : Cell}
    (plain : left.kind? ≠ some .text ∨ right.kind? ≠ some .text) :
    applyBinary .add left right =
      arithmetic .add (fun first second => Number.word? (first.toInt + second.toInt)) (· + ·)
        left right := by
  cases left <;> cases right <;> try rfl
  exact absurd rfl (plain.resolve_left (not_not_intro rfl))

theorem applyBinary_zeros_left (op : BinaryOp) (right : Cell) :
    Similar (applyBinary op (.float 0) right) (applyBinary op (.float (-0)) right) := by
  cases op with
  | add =>
    rw [applyBinary_add (.inl float_kind?_ne_text), applyBinary_add (.inl float_kind?_ne_text)]
    exact arithmetic_zeros_left _ Number.keepsZeros_add.left right
  | sub =>
    rw [applyBinary, applyBinary]
    exact arithmetic_zeros_left _ Number.keepsZeros_sub.left right
  | mul =>
    rw [applyBinary, applyBinary]
    exact arithmetic_zeros_left _ Number.keepsZeros_mul.left right
  | div =>
    cases divisor : right.number? with
    | none =>
      simp only [applyBinary, number?_float, divisor]
      exact .error _
    | some value =>
      simp only [applyBinary, number?_float, divisor]
      split
      · exact .refl _
      · exact .ok (Number.equals_div_zeros value)
  | mod =>
    cases divisor : right.number? with
    | none =>
      simp only [applyBinary, number?_float, divisor]
      exact .error _
    | some value =>
      simp only [applyBinary, number?_float, divisor]
      split
      · exact .refl _
      · exact arithmetic_zeros_left _ equals_flooredFloatRem_zeros right
  | eq | ne =>
    rw [applyBinary, applyBinary, Cell.compare?_zeros_left]
    exact .refl _
  | lt | le | gt | ge => exact ordered_zeros_left _ right
  | and | or => exact .error _

theorem applyBinary_zeros_right (op : BinaryOp) (left : Cell) :
    Similar (applyBinary op left (.float 0)) (applyBinary op left (.float (-0))) := by
  cases op with
  | add =>
    rw [applyBinary_add (.inr float_kind?_ne_text), applyBinary_add (.inr float_kind?_ne_text)]
    exact arithmetic_zeros_right _ Number.keepsZeros_add.right left
  | sub => exact arithmetic_zeros_right _ Number.keepsZeros_sub.right left
  | mul => exact arithmetic_zeros_right _ Number.keepsZeros_mul.right left
  | div | mod =>
    -- Both zeros are refused as divisors.
    cases dividend : left.number? <;> simp only [applyBinary, number?_float, dividend]
    · exact .error _
    · exact .refl _
  | eq | ne =>
    rw [applyBinary, applyBinary, Cell.compare?_zeros_right]
    exact .refl _
  | lt | le | gt | ge => exact ordered_zeros_right _ left
  | and | or => cases left <;> exact .error _

theorem evalUnary_zeros (op : UnaryOp) :
    Similar (evalUnary op (.float 0)) (evalUnary op (.float (-0))) := by
  cases op with
  | plus => exact .ok Cell.equals_zeros
  | minus => exact .ok (.float rfl)
  | isNull | isNotNull => exact .refl _
  | not => exact .error _

/-- Operators do not tell equal cells apart. -/
theorem applyBinary_similar (op : BinaryOp) {left right otherLeft otherRight : Cell}
    (leftEqual : left.Equals otherLeft) (rightEqual : right.Equals otherRight) :
    Similar (applyBinary op left right) (applyBinary op otherLeft otherRight) :=
  Similar.equivalence.trans
    (leftEqual.lift Similar.equivalence (applyBinary op · right) (applyBinary_zeros_left op right))
    (rightEqual.lift Similar.equivalence (applyBinary op otherLeft)
      (applyBinary_zeros_right op otherLeft))

end Operators

/-- An operand that decides the result whatever the other one is. -/
inductive BinaryOp.Decides : BinaryOp → Bool → Prop where
  | and : Decides .and false
  | or : Decides .or true

/-- The tests for empty cells. -/
def UnaryOp.TestsNull (op : UnaryOp) : Prop :=
  op = .isNull ∨ op = .isNotNull

theorem evalUnary_null_of_blind {op : UnaryOp} (blind : ¬ op.TestsNull) :
    evalUnary op .null = .ok .null := by
  cases op with
  | isNull => exact absurd (.inl rfl) blind
  | isNotNull => exact absurd (.inr rfl) blind
  | plus | minus | not => rfl

section Nulls

variable {op : BinaryOp} {left right otherLeft otherRight known cell : Cell} {value : Bool}

/-- With an empty operand the result is empty or decided by the other operand. -/
theorem nullResult_cases (op : BinaryOp) (left right : Cell) :
    nullResult op left right = .null ∨
      ∃ value, op.Decides value ∧ (left = .boolean value ∨ right = .boolean value) ∧
        nullResult op left right = .boolean value := by
  unfold nullResult
  split
  · exact .inr ⟨_, .and, .inl rfl, rfl⟩
  · exact .inr ⟨_, .and, .inr rfl, rfl⟩
  · exact .inr ⟨_, .or, .inl rfl, rfl⟩
  · exact .inr ⟨_, .or, .inr rfl, rfl⟩
  · exact .inl rfl

/-- A decided result is the only one there can be. -/
theorem eq_of_decides (decides : op.Decides value)
    (given : left = .boolean value ∨ right = .boolean value)
    (evaluates : evalBinary op left right = .ok cell) : cell = .boolean value := by
  cases decides <;> rcases given with rfl | rfl
  · rcases right with _ | ⟨_ | _⟩ | _ | _ | _ | _ <;> cases evaluates <;> rfl
  · rcases left with _ | ⟨_ | _⟩ | _ | _ | _ | _ <;> cases evaluates <;> rfl
  · rcases right with _ | ⟨_ | _⟩ | _ | _ | _ | _ <;> cases evaluates <;> rfl
  · rcases left with _ | ⟨_ | _⟩ | _ | _ | _ | _ <;> cases evaluates <;> rfl

theorem evalBinary_approximates (leftLess : left.Approximates otherLeft)
    (rightLess : right.Approximates otherRight) (before : evalBinary op left right = .ok known)
    (after : evalBinary op otherLeft otherRight = .ok cell) : known.Approximates cell := by
  by_cases empty : (left.isNull || right.isNull) = true
  · rw [evalBinary, if_pos empty] at before
    cases before
    obtain null | ⟨value, decides, given, decided⟩ := nullResult_cases op left right
    · exact .inl null
    · have stillGiven : otherLeft = .boolean value ∨ otherRight = .boolean value := by
        rcases given with rfl | rfl
        · exact .inl leftLess.eq_boolean
        · exact .inr rightLess.eq_boolean
      rw [decided, eq_of_decides decides stillGiven after]
      exact .inr (Cell.equals_self _)
  · obtain ⟨leftFull, rightFull⟩ : left ≠ .null ∧ right ≠ .null := by
      simpa only [Bool.or_eq_true, Cell.isNull_eq_true_iff, not_or] using empty
    have leftEqual := leftLess.resolve_left leftFull
    have rightEqual := rightLess.resolve_left rightFull
    have similar := applyBinary_similar op leftEqual rightEqual
    rw [evalBinary, if_neg empty] at before
    rw [evalBinary, ← leftEqual.isNull_eq, ← rightEqual.isNull_eq, if_neg empty] at after
    rw [before, after] at similar
    exact similar.approximates

theorem evalUnary_approximates {op : UnaryOp} {operand other : Cell} (blind : ¬ op.TestsNull)
    (less : operand.Approximates other) (before : evalUnary op operand = .ok known)
    (after : evalUnary op other = .ok cell) : known.Approximates cell := by
  rcases less with rfl | equal
  · rw [evalUnary_null_of_blind blind] at before
    cases before
    exact .inl rfl
  · have similar := equal.lift Similar.equivalence (evalUnary op) (evalUnary_zeros op)
    rw [before, after] at similar
    exact similar.approximates

end Nulls

/-- A tree without tests for empty cells. -/
def Expr.IsBlind : Expr → Prop
  | .literal _ => True
  | .column _ => True
  | .binary _ left right => left.IsBlind ∧ right.IsBlind
  | .unary op operand => ¬ op.TestsNull ∧ operand.IsBlind

theorem Expr.eval_binary_eq_ok {op : BinaryOp} {left right : Expr} {row : String → Cell}
    {cell : Cell} (evaluates : (Expr.binary op left right).eval row = .ok cell) :
    ∃ first second, left.eval row = .ok first ∧ right.eval row = .ok second ∧
      evalBinary op first second = .ok cell := by
  rw [eval] at evaluates
  cases leftEval : left.eval row with
  | error error => simp only [leftEval, reduceCtorEq] at evaluates
  | ok first =>
    cases rightEval : right.eval row with
    | error error => simp only [leftEval, rightEval, reduceCtorEq] at evaluates
    | ok second =>
      simp only [leftEval, rightEval] at evaluates
      exact ⟨first, second, rfl, rfl, evaluates⟩

theorem Expr.eval_unary_eq_ok {op : UnaryOp} {operand : Expr} {row : String → Cell} {cell : Cell}
    (evaluates : (Expr.unary op operand).eval row = .ok cell) :
    ∃ value, operand.eval row = .ok value ∧ evalUnary op value = .ok cell := by
  rw [eval] at evaluates
  cases operandEval : operand.eval row with
  | error error => simp only [operandEval, reduceCtorEq] at evaluates
  | ok value =>
    simp only [operandEval] at evaluates
    exact ⟨value, rfl, evaluates⟩

/-- The more is known of a row, the more is known of a value: a value from a row with less in it is
empty, or it stays when cells are filled in. -/
theorem Expr.eval_approximates {expr : Expr} (blind : expr.IsBlind) {row fuller : String → Cell}
    (less : ∀ name ∈ expr.columns, (row name).Approximates (fuller name)) {known cell : Cell}
    (before : expr.eval row = .ok known) (after : expr.eval fuller = .ok cell) :
    known.Approximates cell := by
  induction expr generalizing known cell with
  | literal value =>
    cases before
    cases after
    exact .inr (Cell.equals_self _)
  | column name =>
    cases before
    cases after
    exact less name (mem_columns_column.2 rfl)
  | binary op left right leftIh rightIh =>
    obtain ⟨first, second, leftBefore, rightBefore, result⟩ := eval_binary_eq_ok before
    obtain ⟨otherFirst, otherSecond, leftAfter, rightAfter, otherResult⟩ := eval_binary_eq_ok after
    have leftLess := leftIh blind.1 (fun name mem => less name (mem_columns_binary.2 (.inl mem)))
      leftBefore leftAfter
    have rightLess := rightIh blind.2 (fun name mem => less name (mem_columns_binary.2 (.inr mem)))
      rightBefore rightAfter
    exact evalBinary_approximates leftLess rightLess result otherResult
  | unary op operand ih =>
    obtain ⟨value, operandBefore, result⟩ := eval_unary_eq_ok before
    obtain ⟨otherValue, operandAfter, otherResult⟩ := eval_unary_eq_ok after
    have operandLess := ih blind.2 (fun name mem => less name (mem_columns_unary.2 mem))
      operandBefore operandAfter
    exact evalUnary_approximates blind.1 operandLess result otherResult

/-- Whether a thing is not both sold and discounted. -/
def fullPrice : Expr :=
  .unary .not
    (.binary .and (.column "sold") (.binary .gt (.column "discount") (.literal (.float 0))))

/-- A row with a discount of zero. -/
def atZero (sold : Cell) (zero : Float) (name : String) : Cell :=
  if name = "sold" then sold else .float zero

/-- No discount decides the answer before it is known whether the thing is sold, and so does the
other zero after that. -/
theorem eval_approximates_atZero :
    fullPrice.eval (atZero .null 0) = .ok (.boolean true) ∧
      fullPrice.eval (atZero (.boolean true) (-0)) = .ok (.boolean true) ∧
      (Cell.boolean true).Approximates (.boolean true) := by
  have before : fullPrice.eval (atZero .null 0) = .ok (.boolean true) := rfl
  have after : fullPrice.eval (atZero (.boolean true) (-0)) = .ok (.boolean true) := rfl
  have blind : fullPrice.IsBlind := by
    refine ⟨?_, trivial, trivial, trivial⟩
    rintro (test | test) <;> cases test
  have less (name : String) :
      (atZero .null 0 name).Approximates (atZero (.boolean true) (-0) name) := by
    rw [atZero, atZero]
    split
    · exact .inl rfl
    · exact .inr Cell.equals_zeros
  exact ⟨before, after, Expr.eval_approximates blind (fun name _ => less name) before after⟩

end Formula

end TableFlow
