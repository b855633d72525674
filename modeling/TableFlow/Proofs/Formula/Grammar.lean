import TableFlow.Formula.Parser

/-!
# The grammar of formulas

The grammar has one level for each strength of binding. Four levels are chains of operators, which
lean to the left: a chain is an operand, or a chain followed by an operator and one more operand.

* `or` chains conjunctions, `and` chains negations;
* a negation is `not` before a negation, or a comparison;
* a comparison is a sum, a null test of a sum, or a comparing operator between two sums;
* `+` and `-` chain products; `*`, `/` and `%` chain signed terms;
* a signed term is a sign before a signed term, or a term;
* a term is a literal, a column, or a formula in parentheses.
-/

namespace TableFlow.Formula

/-- The chains of operators, from the loosest to the tightest. -/
inductive Chain where
  | or
  | and
  | sum
  | product

/-- The levels of the grammar. -/
inductive Level where
  | chain (kind : Chain)
  | negation
  | comparison
  | sign
  | term

namespace Chain

def operand : Chain → Level
  | .or => .chain .and
  | .and => .negation
  | .sum => .chain .product
  | .product => .sign

/-- The tokens that join the operands of a chain, with their operators. -/
inductive Joins : Chain → Token → BinaryOp → Prop where
  | or : Joins .or .or .or
  | and : Joins .and .and .and
  | add : Joins .sum .plus .add
  | sub : Joins .sum .minus .sub
  | mul : Joins .product .star .mul
  | div : Joins .product .slash .div
  | mod : Joins .product .percent .mod

end Chain

/-- The tokens that compare two sums, with their operators. -/
inductive Compares : Token → BinaryOp → Prop where
  | eq : Compares .equal .eq
  | ne : Compares .notEqual .ne
  | lt : Compares .less .lt
  | le : Compares .lessEqual .le
  | gt : Compares .greater .gt
  | ge : Compares .greaterEqual .ge

/-- The tokens that are signs, with their operators. -/
inductive Signs : Token → UnaryOp → Prop where
  | plus : Signs .plus .plus
  | minus : Signs .minus .minus

/-- The tokens that are terms on their own, with their trees. -/
inductive Stands : Token → Expr → Prop where
  | number {digits : String} {cell : Cell} (value : numberCell? digits = some cell) :
      Stands (.number digits) (.literal cell)
  | string (value : String) : Stands (.string value) (.literal (.text value))
  | true : Stands .true (.literal (.boolean true))
  | false : Stands .false (.literal (.boolean false))
  | null : Stands .null (.literal .null)
  | identifier (name : String) : Stands (.identifier name) (.column name)

/-- The tokens of a formula of a level, with its tree. -/
inductive Derives : Level → List Token → Expr → Prop where
  | first {kind : Chain} {tokens : List Token} {expr : Expr}
      (operand : Derives kind.operand tokens expr) : Derives (.chain kind) tokens expr
  | next {kind : Chain} {front back : List Token} {token : Token} {op : BinaryOp}
      {left right : Expr} (chain : Derives (.chain kind) front left)
      (joins : kind.Joins token op) (operand : Derives kind.operand back right) :
      Derives (.chain kind) (front ++ token :: back) (.binary op left right)
  | not {tokens : List Token} {expr : Expr} (operand : Derives .negation tokens expr) :
      Derives .negation (.not :: tokens) (.unary .not expr)
  | plain {tokens : List Token} {expr : Expr} (comparison : Derives .comparison tokens expr) :
      Derives .negation tokens expr
  | sum {tokens : List Token} {expr : Expr} (sum : Derives (.chain .sum) tokens expr) :
      Derives .comparison tokens expr
  | isNull {tokens : List Token} {expr : Expr} (sum : Derives (.chain .sum) tokens expr) :
      Derives .comparison (tokens ++ [.is, .null]) (.unary .isNull expr)
  | isNotNull {tokens : List Token} {expr : Expr} (sum : Derives (.chain .sum) tokens expr) :
      Derives .comparison (tokens ++ [.is, .not, .null]) (.unary .isNotNull expr)
  | compare {front back : List Token} {token : Token} {op : BinaryOp} {left right : Expr}
      (leftSum : Derives (.chain .sum) front left) (compares : Compares token op)
      (rightSum : Derives (.chain .sum) back right) :
      Derives .comparison (front ++ token :: back) (.binary op left right)
  | signed {token : Token} {op : UnaryOp} {tokens : List Token} {expr : Expr}
      (signs : Signs token op) (operand : Derives .sign tokens expr) :
      Derives .sign (token :: tokens) (.unary op expr)
  | unsigned {tokens : List Token} {expr : Expr} (term : Derives .term tokens expr) :
      Derives .sign tokens expr
  | atom {token : Token} {expr : Expr} (stands : Stands token expr) : Derives .term [token] expr
  | parens {tokens : List Token} {expr : Expr} (inner : Derives (.chain .or) tokens expr) :
      Derives .term (.leftParen :: tokens ++ [.rightParen]) expr

/-- No formula contains the end marker. -/
theorem Derives.eof_not_mem {level : Level} {tokens : List Token} {expr : Expr}
    (derives : Derives level tokens expr) : Token.eof ∉ tokens := by
  induction derives with
  | first operand ih => exact ih
  | next chain joins operand chainIH operandIH => cases joins <;> simp [chainIH, operandIH]
  | not operand ih => simp [ih]
  | plain comparison ih => exact ih
  | sum sum ih => exact ih
  | isNull sum ih => simp [ih]
  | isNotNull sum ih => simp [ih]
  | compare leftSum compares rightSum leftIH rightIH => cases compares <;> simp [leftIH, rightIH]
  | signed signs operand ih => cases signs <;> simp [ih]
  | unsigned term ih => exact ih
  | atom stands => cases stands <;> simp
  | parens inner ih => simp [ih]

/-- The levels that may start with `not`. -/
inductive Level.Negates : Level → Prop where
  | or : Negates (.chain .or)
  | and : Negates (.chain .and)
  | negation : Negates .negation

/-- A formula is not empty. It starts with `not` only on the levels of negations and looser ones,
and a term does not start with a sign. -/
theorem Derives.front {level : Level} {tokens : List Token} {expr : Expr}
    (derives : Derives level tokens expr) :
    ∃ head tail, tokens = head :: tail ∧ (head = .not → level.Negates) ∧
      (level = .term → ∀ op, ¬ Signs head op) := by
  induction derives with
  | @first kind tokens expr operand ih =>
      obtain ⟨head, tail, rfl, negates, _⟩ := ih
      refine ⟨head, tail, rfl, ?_, nofun⟩
      intro same
      cases kind with
      | or => exact .or
      | and => exact .and
      | sum => cases negates same
      | product => cases negates same
  | next chain joins operand chainIH operandIH =>
      obtain ⟨head, tail, rfl, negates, _⟩ := chainIH
      exact ⟨head, _, rfl, negates, nofun⟩
  | not operand ih => exact ⟨_, _, rfl, fun _ => .negation, nofun⟩
  | plain comparison ih =>
      obtain ⟨head, tail, rfl, _, _⟩ := ih
      exact ⟨head, tail, rfl, fun _ => .negation, nofun⟩
  | sum sum ih =>
      obtain ⟨head, tail, rfl, negates, _⟩ := ih
      exact ⟨head, tail, rfl, fun same => (nomatch negates same), nofun⟩
  | isNull sum ih =>
      obtain ⟨head, tail, rfl, negates, _⟩ := ih
      exact ⟨head, _, rfl, fun same => (nomatch negates same), nofun⟩
  | isNotNull sum ih =>
      obtain ⟨head, tail, rfl, negates, _⟩ := ih
      exact ⟨head, _, rfl, fun same => (nomatch negates same), nofun⟩
  | compare leftSum compares rightSum leftIH rightIH =>
      obtain ⟨head, tail, rfl, negates, _⟩ := leftIH
      exact ⟨head, _, rfl, fun same => (nomatch negates same), nofun⟩
  | signed signs operand ih =>
      refine ⟨_, _, rfl, ?_, nofun⟩
      cases signs <;> exact nofun
  | unsigned term ih =>
      obtain ⟨head, tail, rfl, negates, _⟩ := ih
      exact ⟨head, tail, rfl, fun same => (nomatch negates same), nofun⟩
  | atom stands =>
      refine ⟨_, _, rfl, ?_, ?_⟩
      · cases stands <;> exact nofun
      · cases stands <;> exact nofun
  | parens inner ih => exact ⟨_, _, rfl, nofun, nofun⟩

end TableFlow.Formula
