import TableFlow.Cell.Basic

/-!
# Formula trees

A formula is a tree over literals and column names. The operators carry the symbols
by which messages and listings name them.
-/

namespace TableFlow.Formula

/-- Operators with two operands. -/
inductive BinaryOp where
  | add
  | sub
  | mul
  | div
  | mod
  | eq
  | ne
  | lt
  | le
  | gt
  | ge
  | and
  | or
  deriving DecidableEq

/-- Operators with one operand. -/
inductive UnaryOp where
  | not
  | isNull
  | isNotNull
  | plus
  | minus
  deriving DecidableEq

/-- The symbol of an operator with two operands. -/
def BinaryOp.symbol : BinaryOp → String
  | .add => "+"
  | .sub => "-"
  | .mul => "*"
  | .div => "/"
  | .mod => "%"
  | .eq => "=="
  | .ne => "!="
  | .lt => "<"
  | .le => "<="
  | .gt => ">"
  | .ge => ">="
  | .and => "and"
  | .or => "or"

/-- The symbol of an operator with one operand. -/
def UnaryOp.symbol : UnaryOp → String
  | .not => "not"
  | .isNull => "is null"
  | .isNotNull => "is not null"
  | .plus => "+"
  | .minus => "-"

/-- A formula tree. -/
inductive Expr where
  | literal (cell : Cell)
  | column (name : String)
  | binary (op : BinaryOp) (left right : Expr)
  | unary (op : UnaryOp) (operand : Expr)

namespace Expr

/-- Add the columns of a tree to the ones already met, each once. -/
def collectColumns : Expr → List String → List String
  | .literal _, names => names
  | .column name, names => if names.contains name then names else names ++ [name]
  | .binary _ left right, names => right.collectColumns (left.collectColumns names)
  | .unary _ operand, names => operand.collectColumns names

/-- The columns of a tree in order of first appearance. -/
def columns (expr : Expr) : List String :=
  expr.collectColumns []

end Expr

end TableFlow.Formula
