import TableFlow.Condition.Codec
import TableFlow.Formula.Clean
import TableFlow.Formula.Eval
import TableFlow.Transform.Check

/-!
# Formulas and conditions on rows

The transforms that evaluate formulas and conditions: a column from a formula, the rows that
pass a filter, and a column chosen row by row between alternatives.
-/

namespace TableFlow

open TableFlow.Json

/-- The cells of a formula as it stands in a definition. -/
def formulaCells (source : String) (table : Table) : Except StepError (List Cell) :=
  match Formula.evaluate (Formula.clean source) table with
  | .ok cells => .ok cells
  | .error error => .error (.ofFormula error)

/-- A column computed by a formula. -/
structure Derive where
  newColumn : String
  formula : String
  deriving BEq

namespace Derive

/-- Demand a name and a formula. -/
def validate (derive : Derive) : Except StepError Unit :=
  checkThen (requireName "newColumn" derive.newColumn) fun () =>
    if Text.isBlankText derive.formula then .error (.invalid .blankFormula) else .ok ()

/-- The table with the computed column. -/
def apply (derive : Derive) (table : Table) : Except StepError Table :=
  match formulaCells derive.formula table with
  | .error error => .error error
  | .ok cells => table.withColumn { name := derive.newColumn, cells }

def ofJson? (body : Json) : Option Derive :=
  match body.record? ["newColumn", "formula"] with
  | some [newColumn, formula] => do
      return { newColumn := ← required text? newColumn, formula := ← required text? formula }
  | _ => none

def fields (derive : Derive) : List (String × Json) :=
  [("newColumn", .string derive.newColumn), ("formula", .string derive.formula)]

end Derive

/-- Keep the rows that pass a condition or a formula. -/
inductive Filter where
  | condition (test : Condition)
  | formula (source : String)
  deriving BEq

namespace Filter

/-- Demand a valid condition or a formula. -/
def validate : Filter → Except StepError Unit
  | .condition test => test.validate
  | .formula source =>
      if Text.isBlankText source then .error (.invalid .blankFilter) else .ok ()

/-- Whether each row passes; a row for which the answer is unknown does not. -/
def mask (table : Table) : Filter → Except StepError (List Bool)
  | .condition test => test.evaluate table
  | .formula source =>
      match Formula.evaluatePredicate (Formula.clean source) table with
      | .ok answers => .ok (answers.map fun answer => answer.getD false)
      | .error error => .error (.ofFormula error)

/-- The positions of the true entries of a mask. -/
def passing (mask : List Bool) : List Nat :=
  (mask.zipIdx.filter Prod.fst).map Prod.snd

/-- The rows that pass. -/
def apply (filter : Filter) (table : Table) : Except StepError Table :=
  match filter.mask table with
  | .error error => .error error
  | .ok mask => .ok (table.takeRows (passing mask))

/-- The condition of the stored form: a condition if it is one, otherwise a formula. -/
def testOfJson? (document : Json) : Option Filter :=
  ((Condition.ofJson? document).map Filter.condition).or (document.text?.map Filter.formula)

def ofJson? (body : Json) : Option Filter :=
  match body.record? ["condition"] with
  | some [test] => required testOfJson? test
  | _ => none

def fields : Filter → List (String × Json)
  | .condition test => [("condition", test.toJson)]
  | .formula source => [("condition", .string source)]

end Filter

/-- A value of a branch: a text, which is a quoted literal or a formula, or a constant. -/
inductive Operand where
  | text (source : String)
  | constant (cell : Cell)
  deriving BEq

namespace Operand

/-- The value of an operand in each row. -/
def resolve (table : Table) : Operand → Except StepError (List Cell)
  | .text source =>
      if Formula.isLiteral source then
        .ok (List.replicate table.rowCount (.text (Formula.unquote source)))
      else formulaCells source table
  | .constant cell => .ok (List.replicate table.rowCount cell)

def ofJson? (document : Json) : Option Operand :=
  (document.text?.map Operand.text).or ((Cell.ofJson? document).map Operand.constant)

/-- An operand as a document. -/
def toJson : Operand → Json
  | .text source => .string source
  | .constant cell => cell.toJson

end Operand

/-- A chain of alternatives: a value, or a choice between a value and a further chain. -/
inductive Branch where
  | value (operand : Operand)
  | choose (condition : Condition) (accepted : Operand) (otherwise : Branch)
  deriving BEq

namespace Branch

/-- Demand valid conditions. -/
def validate : Branch → Except StepError Unit
  | .value _ => .ok ()
  | .choose condition _ otherwise =>
      match condition.validate with
      | .error error => .error error
      | .ok () => otherwise.validate

/-- Choose row by row between two lists of cells. -/
def chooseCells : List Bool → List Cell → List Cell → List Cell
  | test :: tests, accepted :: accepteds, rejected :: rejecteds =>
      (if test then accepted else rejected) :: chooseCells tests accepteds rejecteds
  | _, _, _ => []

/-- The chosen cell of each row. All alternatives are evaluated on all rows, the last one
first. -/
def resolve (table : Table) : Branch → Except StepError (List Cell)
  | .value operand => operand.resolve table
  | .choose condition accepted otherwise =>
      match otherwise.resolve table with
      | .error error => .error error
      | .ok rejectedCells =>
          match accepted.resolve table with
          | .error error => .error error
          | .ok acceptedCells =>
              match condition.evaluate table with
              | .error error => .error error
              | .ok mask => .ok (chooseCells mask acceptedCells rejectedCells)

/-- The stored form: a record of condition, value and further chain if it is one, otherwise
a value. -/
def ofJson? (document : Json) : Option Branch :=
  let choice :=
    match read : document.record? ["if", "then", "else"] with
    | some [some test, some accepted, some otherwise] =>
        have : sizeOf otherwise < sizeOf document :=
          sizeOf_of_record? read (by simp)
        match Condition.ofJson? test, Operand.ofJson? accepted, ofJson? otherwise with
        | some condition, some accepted, some otherwise =>
            some (Branch.choose condition accepted otherwise)
        | _, _, _ => none
    | _ => none
  choice.or ((Operand.ofJson? document).map Branch.value)
termination_by sizeOf document

/-- A chain as a document. -/
def toJson : Branch → Json
  | .value operand => operand.toJson
  | .choose condition accepted otherwise =>
      .object
        [("if", condition.toJson), ("then", accepted.toJson), ("else", otherwise.toJson)]

end Branch

/-- A column chosen row by row. -/
structure IfThenElse where
  newColumn : String
  condition : Condition
  accepted : Operand
  otherwise : Branch
  deriving BEq

namespace IfThenElse

/-- The whole chain. -/
def branch (choice : IfThenElse) : Branch :=
  .choose choice.condition choice.accepted choice.otherwise

/-- Demand a name and valid conditions. -/
def validate (choice : IfThenElse) : Except StepError Unit :=
  checkThen (requireName "newColumn" choice.newColumn) fun () => choice.branch.validate

/-- The table with the chosen column. -/
def apply (choice : IfThenElse) (table : Table) : Except StepError Table :=
  match choice.branch.resolve table with
  | .error error => .error error
  | .ok cells => table.withColumn { name := choice.newColumn, cells }

/-- The stored form, which has to be an object. -/
def ofJson? (body : Json) : Option IfThenElse :=
  match body with
  | .object _ =>
      match body.record? ["newColumn", "if", "then", "else"] with
      | some [newColumn, test, accepted, otherwise] => do
          return { newColumn := ← required text? newColumn
                   condition := ← required Condition.ofJson? test
                   accepted := ← required Operand.ofJson? accepted
                   otherwise := ← required Branch.ofJson? otherwise }
      | _ => none
  | _ => none

def fields (choice : IfThenElse) : List (String × Json) :=
  [ ("newColumn", .string choice.newColumn), ("if", choice.condition.toJson),
    ("then", choice.accepted.toJson), ("else", choice.otherwise.toJson) ]

end IfThenElse

end TableFlow
