import TableFlow.Table.Basic

/-!
# Conditions

A condition is a tree whose leaves test one column against a literal, a set of literals
or emptiness, and whose inner nodes demand all or any of their children. Evaluated on a
table it gives one boolean for each row; all leaves are evaluated on all rows. An empty
cell passes a test only by being different: through `ne`, `nin` and `isnull`.
-/

namespace TableFlow

/-- Comparisons with a literal. -/
inductive Comparison where
  | eq
  | ne
  | lt
  | le
  | gt
  | ge
  deriving DecidableEq

/-- Whether a comparison holds for two cells in a given order. -/
def Comparison.holds : Comparison → Ordering → Bool
  | .eq, ordering => ordering == .eq
  | .ne, ordering => ordering != .eq
  | .lt, ordering => ordering == .lt
  | .le, ordering => ordering != .gt
  | .gt, ordering => ordering == .gt
  | .ge, ordering => ordering != .lt

/-- Being one of some literals, or none of them. -/
inductive Membership where
  | within
  | without
  deriving DecidableEq

/-- Being empty, or not. -/
inductive NullTest where
  | isNull
  | notNull
  deriving DecidableEq

/-- A condition on the rows of a table. -/
inductive Condition where
  | all (children : List Condition)
  | any (children : List Condition)
  | compare (column : String) (operator : Comparison) (value : Cell)
  | member (column : String) (operator : Membership) (values : List Cell)
  | null (column : String) (test : NullTest)

namespace Condition

mutual

/-- Refuse a node with fewer than two children and a leaf without a column. -/
def validate : Condition → Except StepError Unit
  | .all children => validateNode children
  | .any children => validateNode children
  | .compare column _ _ => validateColumn column
  | .member column _ _ => validateColumn column
  | .null column _ => validateColumn column

/-- Refuse fewer than two children, and children that are refused. -/
def validateNode (children : List Condition) : Except StepError Unit :=
  if children.length < 2 then .error (.invalid .loneCondition) else validateAll children

/-- Refuse the first child that is refused. -/
def validateAll : List Condition → Except StepError Unit
  | [] => .ok ()
  | child :: rest =>
      match child.validate with
      | .error error => .error error
      | .ok () => validateAll rest

/-- Refuse an empty name. -/
def validateColumn (column : String) : Except StepError Unit :=
  if column.isEmpty then .error (.invalid .blankConditionColumn) else .ok ()

end

/-- Test a cell against a literal. -/
def compareCell (column : String) (operator : Comparison) (value cell : Cell) :
    Except StepError Bool :=
  if cell.isNull || value.isNull then .ok (operator == .ne)
  else
    match cell.compare? value with
    | some ordering => .ok (operator.holds ordering)
    | none => .error (.incomparable column value cell)

/-- Whether a cell is equal to one of some literals. A cell that compares with none of them
is an error; an empty cell is equal to none. -/
def findCell (column : String) (literals : List Cell) (cell : Cell) : Except StepError Bool :=
  if cell.isNull then .ok false
  else
    match literals with
    | [] => .ok false
    | first :: _ =>
        if literals.any fun literal => (cell.compare? literal).isSome then
          .ok (literals.any fun literal => cell.compare? literal == some .eq)
        else .error (.incomparable column first cell)

/-- Test a cell for membership among literals; empty literals do not count. -/
def memberCell (column : String) (operator : Membership) (values : List Cell) (cell : Cell) :
    Except StepError Bool :=
  match findCell column (values.filter fun value => !value.isNull) cell with
  | .error error => .error error
  | .ok found =>
      match operator with
      | .within => .ok found
      | .without => .ok (!found)

/-- Test a cell for emptiness. -/
def nullCell (test : NullTest) (cell : Cell) : Bool :=
  match test with
  | .isNull => cell.isNull
  | .notNull => !cell.isNull

/-- Combine two masks row by row; rows that the second mask lacks stay as they are. -/
def combineMasks (op : Bool → Bool → Bool) : List Bool → List Bool → List Bool
  | left :: lefts, right :: rights => op left right :: combineMasks op lefts rights
  | lefts, [] => lefts
  | [], _ => []

mutual

/-- The truth of a condition in each row of a table. -/
def evaluate (table : Table) : Condition → Except StepError (List Bool)
  | .all children => evaluateAll table (· && ·) (List.replicate table.rowCount true) children
  | .any children => evaluateAll table (· || ·) (List.replicate table.rowCount false) children
  | .compare name operator value =>
      match table.column name with
      | .error error => .error error
      | .ok column => column.cells.mapM (compareCell name operator value)
  | .member name operator values =>
      match table.column name with
      | .error error => .error error
      | .ok column => column.cells.mapM (memberCell name operator values)
  | .null name test =>
      match table.column name with
      | .error error => .error error
      | .ok column => .ok (column.cells.map (nullCell test))

/-- Combine the masks of some conditions, from left to right, onto a first mask. -/
def evaluateAll (table : Table) (op : Bool → Bool → Bool) (mask : List Bool) :
    List Condition → Except StepError (List Bool)
  | [] => .ok mask
  | child :: rest =>
      match child.evaluate table with
      | .error error => .error error
      | .ok next => evaluateAll table op (combineMasks op mask next) rest

end

mutual

/-- Whether two conditions are equal. -/
def same : Condition → Condition → Bool
  | .all left, .all right => sameAll left right
  | .any left, .any right => sameAll left right
  | .compare leftColumn leftOperator leftValue, .compare rightColumn rightOperator rightValue =>
      leftColumn == rightColumn && leftOperator == rightOperator && leftValue == rightValue
  | .member leftColumn leftOperator leftValues, .member rightColumn rightOperator rightValues =>
      leftColumn == rightColumn && leftOperator == rightOperator && leftValues == rightValues
  | .null leftColumn leftTest, .null rightColumn rightTest =>
      leftColumn == rightColumn && leftTest == rightTest
  | _, _ => false

/-- Whether two lists of conditions are equal. -/
def sameAll : List Condition → List Condition → Bool
  | [], [] => true
  | left :: lefts, right :: rights => left.same right && sameAll lefts rights
  | _, _ => false

end

instance : BEq Condition := ⟨same⟩

end Condition

end TableFlow
