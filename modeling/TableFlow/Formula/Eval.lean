import TableFlow.Formula.Parser
import TableFlow.Table.Basic

/-!
# Values of formulas

A formula is evaluated row by row. An empty operand makes the result empty, except that
`and` and `or` know the answer when the other operand decides it. Arithmetic on
integers is exact and fails when the result needs more than 64 bits; as soon as a float
takes part it is done in floats. Division gives a float, and a divisor of zero gives an
empty cell. A remainder has the sign of the divisor.
-/

namespace TableFlow.Formula

open TableFlow.Number

/-- The remainder of a division that rounds down; there is none for a divisor of zero and
for the one quotient that does not fit in 64 bits. -/
def flooredRem? (dividend divisor : Int64) : Option Int64 :=
  let left := dividend.toInt
  let right := divisor.toInt
  if right = 0 ∨ (left = leastWord ∧ right = -1) then none
  else
    let rest := left.tmod right
    if rest ≠ 0 ∧ decide (rest < 0) ≠ decide (right < 0) then word? (rest + right)
    else word? rest

/-- The remainder of floats with the sign of the divisor. -/
def flooredFloatRem (dividend divisor : Float) : Float :=
  remainder (remainder dividend divisor + divisor) divisor

/-- The error for operands that do not suit an operator. -/
def badOperands (op : BinaryOp) (left right : Cell) : FormulaError :=
  .badOperands op.symbol left.kind? right.kind?

/-- Arithmetic: on two integers if both are, otherwise on two floats. -/
def arithmetic (op : BinaryOp) (onInts : Int64 → Int64 → Option Int64)
    (onFloats : Float → Float → Float) (left right : Cell) : Except FormulaError Cell :=
  match left, right with
  | .integer first, .integer second =>
      match onInts first second with
      | some value => .ok (.integer value)
      | none => .error (.overflow op.symbol)
  | _, _ =>
      match left.number?, right.number? with
      | some first, some second => .ok (.float (onFloats first second))
      | _, _ => .error (badOperands op left right)

/-- An ordering test, which fails on cells that do not compare. -/
def ordered (op : BinaryOp) (test : Ordering → Bool) (left right : Cell) :
    Except FormulaError Cell :=
  match left.compare? right with
  | some ordering => .ok (.boolean (test ordering))
  | none => .error (badOperands op left right)

/-- The result of an operator when one of its operands is empty. -/
def nullResult (op : BinaryOp) (left right : Cell) : Cell :=
  match op, left, right with
  | .and, .boolean false, _ => .boolean false
  | .and, _, .boolean false => .boolean false
  | .or, .boolean true, _ => .boolean true
  | .or, _, .boolean true => .boolean true
  | _, _, _ => .null

/-- The result of an operator on two cells that are not empty. -/
def applyBinary (op : BinaryOp) (left right : Cell) : Except FormulaError Cell :=
  match op with
  | .add =>
      match left, right with
      | .text first, .text second => .ok (.text (first ++ second))
      | _, _ =>
          arithmetic op (fun first second => word? (first.toInt + second.toInt)) (· + ·) left right
  | .sub =>
      arithmetic op (fun first second => word? (first.toInt - second.toInt)) (· - ·) left right
  | .mul =>
      arithmetic op (fun first second => word? (first.toInt * second.toInt)) (· * ·) left right
  | .div =>
      match left.number?, right.number? with
      | some first, some second => .ok (if second == 0.0 then .null else .float (first / second))
      | _, _ => .error (badOperands op left right)
  | .mod =>
      match left.number?, right.number? with
      | some _, some second =>
          if second == 0.0 then .ok .null else arithmetic op flooredRem? flooredFloatRem left right
      | _, _ => .error (badOperands op left right)
  | .eq => .ok (.boolean (left.compare? right == some .eq))
  | .ne => .ok (.boolean (left.compare? right != some .eq))
  | .lt => ordered op (· == .lt) left right
  | .le => ordered op (· != .gt) left right
  | .gt => ordered op (· == .gt) left right
  | .ge => ordered op (· != .lt) left right
  | .and =>
      match left, right with
      | .boolean first, .boolean second => .ok (.boolean (first && second))
      | _, _ => .error (badOperands op left right)
  | .or =>
      match left, right with
      | .boolean first, .boolean second => .ok (.boolean (first || second))
      | _, _ => .error (badOperands op left right)

/-- The result of an operator on two cells. -/
def evalBinary (op : BinaryOp) (left right : Cell) : Except FormulaError Cell :=
  if left.isNull || right.isNull then .ok (nullResult op left right)
  else applyBinary op left right

/-- The result of an operator on one cell. -/
def evalUnary (op : UnaryOp) (operand : Cell) : Except FormulaError Cell :=
  match op, operand with
  | .isNull, cell => .ok (.boolean cell.isNull)
  | .isNotNull, cell => .ok (.boolean (!cell.isNull))
  | _, .null => .ok .null
  | .not, .boolean value => .ok (.boolean (!value))
  | .plus, .integer value => .ok (.integer value)
  | .plus, .float value => .ok (.float value)
  | .minus, .integer value =>
      match word? (-value.toInt) with
      | some value => .ok (.integer value)
      | none => .error (.overflow op.symbol)
  | .minus, .float value => .ok (.float (-value))
  | _, cell => .error (.badOperands op.symbol cell.kind? none)

/-- The value of a tree in a row, given by the cell under each name. Operands are
evaluated from left to right, and always both. -/
def Expr.eval (row : String → Cell) : Expr → Except FormulaError Cell
  | .literal cell => .ok cell
  | .column name => .ok (row name)
  | .binary op left right =>
      match left.eval row with
      | .error error => .error error
      | .ok first =>
          match right.eval row with
          | .error error => .error error
          | .ok second => evalBinary op first second
  | .unary op operand =>
      match operand.eval row with
      | .error error => .error error
      | .ok cell => evalUnary op cell

/-- Refuse the first name that a table has no column for. -/
def bindColumns (table : Table) : List String → Except FormulaError Unit
  | [] => .ok ()
  | name :: rest =>
      if table.hasColumn name then bindColumns table rest else .error (.unknownColumn name)

/-- The values of a tree in all rows of a table. The columns have to exist even if there
are no rows. -/
def Expr.evalTable (expr : Expr) (table : Table) : Except FormulaError (List Cell) :=
  match bindColumns table expr.columns with
  | .error error => .error error
  | .ok () => (List.range table.rowCount).mapM fun row => expr.eval (table.cellAt row)

/-- The values of a formula in all rows of a table. -/
def evaluate (source : String) (table : Table) : Except FormulaError (List Cell) :=
  match parse source with
  | .error error => .error error
  | .ok expr => expr.evalTable table

/-- A cell as an answer: yes, no or unknown. -/
def answer (source : String) (cell : Cell) : Except FormulaError (Option Bool) :=
  match cell with
  | .boolean value => .ok (some value)
  | .null => .ok none
  | .integer _ => .error (.notBoolean source .integer)
  | .float _ => .error (.notBoolean source .float)
  | .text _ => .error (.notBoolean source .text)
  | .timestamp _ => .error (.notBoolean source .timestamp)

/-- The answers of a formula in all rows of a table. -/
def evaluatePredicate (source : String) (table : Table) :
    Except FormulaError (List (Option Bool)) :=
  match evaluate source table with
  | .error error => .error error
  | .ok cells => cells.mapM (answer source)

end TableFlow.Formula
