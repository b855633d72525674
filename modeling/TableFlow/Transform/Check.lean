import TableFlow.Table.Basic
import TableFlow.Text.Blank

/-!
# Checks shared by the transforms

Demands on the names in a definition, and on the cells of a column. Each reports the first
thing that does not meet it.
-/

namespace TableFlow

/-- Demand something of every item, in order. -/
def checkAll {α : Type} (check : α → Except StepError Unit) : List α → Except StepError Unit
  | [] => .ok ()
  | item :: rest =>
      match check item with
      | .error error => .error error
      | .ok () => checkAll check rest

/-- Make one demand after another. -/
def checkThen (first : Except StepError Unit) (second : Unit → Except StepError Unit) :
    Except StepError Unit :=
  match first with
  | .error error => .error error
  | .ok () => second ()

/-- Demand a name that is not blank. -/
def requireName (field name : String) : Except StepError Unit :=
  if Text.isBlankText name then .error (.invalid (.blankName field)) else .ok ()

/-- Demand names that are not blank. -/
def requireEach (field : String) (names : List String) : Except StepError Unit :=
  checkAll (requireName field) names

/-- Demand at least one name, and none that is blank. -/
def requireNames (field : String) (names : List String) : Except StepError Unit :=
  if names.isEmpty then .error (.invalid (.noNames field)) else requireEach field names

/-- Demand a column of numbers; gives the kinds of numbers in it. -/
def requireNumeric (column : Column) (expected : Expectation) : Except StepError (List Kind) :=
  match column.kinds.find? fun kind => !kind.isNumeric with
  | some kind => .error (.mismatch column.name expected kind)
  | none => .ok column.kinds

/-- The instant of a cell of a date column; an empty cell has none. -/
def instantOf (column : String) (cell : Cell) : Except StepError (Option Int) :=
  match cell with
  | .timestamp millis => .ok (some millis.toInt)
  | .null => .ok none
  | .boolean _ => .error (.mismatch column (.kind .timestamp) .boolean)
  | .integer _ => .error (.mismatch column (.kind .timestamp) .integer)
  | .float _ => .error (.mismatch column (.kind .timestamp) .float)
  | .text _ => .error (.mismatch column (.kind .timestamp) .text)

/-- The instants of a date column. -/
def instantsOf (column : Column) : Except StepError (List (Option Int)) :=
  column.cells.mapM (instantOf column.name)

/-- The moment of an instant, which has to lie in the calendar. -/
def momentOf (millis : Int) : Except StepError Calendar.Moment :=
  match Calendar.Moment.ofMillis? millis with
  | some moment => .ok moment
  | none => .error (.failed (.instantOutOfRange millis))

/-- A column with given cells in some rows; the other rows are empty. -/
def scatter (rows : Nat) (placed : List (Nat × Cell)) : List Cell :=
  (List.range rows).map fun row => (placed.lookup row).getD .null

end TableFlow
