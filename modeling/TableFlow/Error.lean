import TableFlow.Formula.Error
import TableFlow.Number.Basic

/-!
# Errors of steps and runs

The causes for which a step is refused or fails, and their wording. A run fails with
the position and name of the failing step; when that run was nested in another one,
its failure becomes the cause of the failure of the outer step.
-/

namespace TableFlow

open TableFlow.Number

/-- Why a definition is invalid, or a table cannot be built. -/
inductive Flaw where
  | blankName (field : String)
  | noNames (field : String)
  | duplicateColumn (name : String)
  | unequalColumn (name : String) (rows expected : Nat)
  | misfitColumn (name : String) (rows expected : Nat)
  | loneCondition
  | blankConditionColumn
  | noSource
  | noKey
  | noRename
  | noReplacement
  | nullFill
  | blankFormula
  | blankFilter
  | noAggregation (step : String)
  | unpairedAggregation (function : String) (columns names : Nat)
  | unpairedParts (parts names : Nat)
  | badPattern (pattern : String)
  | noStatistic
  | badQuantile (nth order : Nat)
  | nestedTooDeep (limit : Nat)
  | nestingUnavailable
  deriving DecidableEq

/-- The wording of a flaw. -/
def Flaw.message : Flaw → String
  | .blankName field => "'" ++ field ++ "' must not be empty"
  | .noNames field => "'" ++ field ++ "' needs at least one column"
  | .duplicateColumn name => "duplicate column name '" ++ name ++ "'"
  | .unequalColumn name rows expected =>
      "column '" ++ name ++ "' has " ++ natText rows ++ " rows, expected " ++ natText expected
  | .misfitColumn name rows expected =>
      "column '" ++ name ++ "' has " ++ natText rows ++ " rows, table has " ++ natText expected
  | .loneCondition => "logical conditions need at least two nested conditions"
  | .blankConditionColumn => "condition column must not be empty"
  | .noSource => "append needs at least one pipeline"
  | .noKey => "join needs at least one key pair"
  | .noRename => "rename needs at least one column pair"
  | .noReplacement => "replace needs at least one value pair"
  | .nullFill => "fillna value must not be null"
  | .blankFormula => "formula must not be empty"
  | .blankFilter => "filter expression must not be empty"
  | .noAggregation step => step ++ " needs at least one aggregation"
  | .unpairedAggregation function columns names =>
      function ++ " aggregation has " ++ natText columns ++ " columns but " ++ natText names ++
        " new column names"
  | .unpairedParts parts names =>
      "dateextract has " ++ natText parts ++ " date parts but " ++ natText names ++
        " new column names"
  | .badPattern pattern => "invalid date format '" ++ pattern ++ "'"
  | .noStatistic => "statistics needs at least one statistic or quantile"
  | .badQuantile nth order =>
      "quantile " ++ natText nth ++ " of " ++ natText order ++ " is out of range"
  | .nestedTooDeep limit => "pipelines nested deeper than " ++ natText limit ++ " levels"
  | .nestingUnavailable => "nested pipelines are not available here"

/-- What a step expects of a cell. -/
inductive Expectation where
  | number
  | kind (kind : Kind)
  deriving DecidableEq

/-- The name of an expectation in messages. -/
def Expectation.name : Expectation → String
  | .number => "number"
  | .kind wanted => wanted.name

/-- Why values could not be computed. -/
inductive Fault where
  | formula (error : Formula.FormulaError)
  | sumOverflow (function : String)
  | runningSumOverflow (column : String)
  | durationOverflow (start finish : Int)
  | instantOutOfRange (millis : Int)
  | sharedDate (date column : String)
  deriving DecidableEq

/-- The wording of a fault. -/
def Fault.message : Fault → String
  | .formula error => error.message
  | .sumOverflow function => "integer overflow in " ++ function
  | .runningSumOverflow column => "integer overflow in running sum of '" ++ column ++ "'"
  | .durationOverflow start finish =>
      "duration between " ++ intText start ++ " and " ++ intText finish ++ " overflows"
  | .instantOutOfRange millis => "timestamp " ++ intText millis ++ " is out of range"
  | .sharedDate date column =>
      "several rows share the date " ++ date ++ " for the same index in '" ++ column ++ "'"

/-- Why a step ends the program instead of failing. -/
inductive Crash where
  | contradictoryOrder
  | indexOutOfRange (length index : Nat)
  | unwritableText
  deriving DecidableEq

def Crash.message : Crash → String
  | .contradictoryOrder =>
      "user-provided comparison function does not correctly implement a total order"
  | .indexOutOfRange length index =>
      "index out of bounds: the len is " ++ natText length ++ " but the index is " ++ natText index
  | .unwritableText => "a Display implementation returned an error unexpectedly: Error"

/-- Why a step is refused or fails, or crashes.  A crash is no error that a caller can handle; it is
carried like one to where the answer of the program would have been given. -/
inductive StepError where
  | invalid (flaw : Flaw)
  | missingColumn (name : String)
  | mismatch (column : String) (expected : Expectation) (actual : Kind)
  | missingDomain (name : String)
  | failed (fault : Fault)
  | crashed (crash : Crash)
  | nested (index : Nat) (step : String) (cause : StepError)
  deriving DecidableEq

/-- Why a run fails: the position and the name of a step, and its error. -/
structure RunError where
  index : Nat
  step : String
  cause : StepError
  deriving DecidableEq

/-- The sorts of step errors that callers tell apart. -/
inductive ErrorSort where
  | invalid
  | missingColumn
  | mismatch
  | missingDomain
  | failed
  | crashed
  deriving DecidableEq

/-- The wording around the error of a step in a run. -/
def stepFailure (index : Nat) (step cause : String) : String :=
  "Step " ++ natText index ++ " (" ++ step ++ ") failed: " ++ cause

namespace StepError

/-- The sort of an error; a failure of a nested run has the sort of its first cause. -/
def sort : StepError → ErrorSort
  | .invalid _ => .invalid
  | .missingColumn _ => .missingColumn
  | .mismatch _ _ _ => .mismatch
  | .missingDomain _ => .missingDomain
  | .failed _ => .failed
  | .crashed _ => .crashed
  | .nested _ _ cause => cause.sort

/-- The wording of an error. -/
def message : StepError → String
  | .invalid flaw => "Invalid step definition: " ++ flaw.message
  | .missingColumn name => "Column not found: " ++ name
  | .mismatch column expected actual =>
      "Type mismatch on column " ++ column ++ ": expected " ++ expected.name ++ ", got " ++
        actual.name
  | .missingDomain name => "Domain not found: " ++ name
  | .failed fault => "Evaluation error: " ++ fault.message
  | .crashed crash => crash.message
  | .nested index step cause =>
      "Nested pipeline failed: " ++ stepFailure index step cause.message

/-- A formula error as the error of a step: an unknown column is a missing column. -/
def ofFormula : Formula.FormulaError → StepError
  | .unknownColumn name => .missingColumn name
  | error => .failed (.formula error)

/-- The error for two cells that do not compare; neither of them is empty. -/
def incomparable (column : String) (expected actual : Cell) : StepError :=
  .mismatch column (.kind (expected.kind?.getD .text)) (actual.kind?.getD .text)

/-- A failure of a nested run as the error of the step that started it. -/
def ofRun (error : RunError) : StepError :=
  .nested error.index error.step error.cause

end StepError

/-- The wording of the failure of a run. -/
def RunError.message (error : RunError) : String :=
  stepFailure error.index error.step error.cause.message

end TableFlow
