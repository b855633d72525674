import TableFlow.Error
import TableFlow.Text.Visible

/-!
# Events of runs

What a run reports while it goes on, and the lines by which a log shows it.
-/

namespace TableFlow

open TableFlow.Number

/-- The weight of a log line. -/
inductive LogLevel where
  | debug
  | info
  | warn
  deriving DecidableEq

def LogLevel.name : LogLevel → String
  | .debug => "DEBUG"
  | .info => "INFO"
  | .warn => "WARN"

/-- Something that a run reports. -/
inductive Event where
  | started (steps depth : Nat)
  | retrieving (domain : String)
  | produced (index : Nat) (step : String) (rows : Nat) (columns : List String)
  | completed (depth rows columns : Nat)
  | failed (depth : Nat) (error : RunError)
  deriving DecidableEq

namespace Event

def level : Event → LogLevel
  | .completed _ _ _ => .info
  | .failed _ _ => .warn
  | _ => .debug

/-- The wording of an event. -/
def message : Event → String
  | .started steps depth =>
      "starting pipeline of " ++ natText steps ++ " steps at depth " ++ natText depth
  | .retrieving domain => "retrieving domain '" ++ domain ++ "'"
  | .produced index step rows columns =>
      "step " ++ natText index ++ " (" ++ step ++ ") produced " ++ natText rows ++
        " rows, columns " ++ Text.quotedList columns
  | .completed depth rows columns =>
      "pipeline completed at depth " ++ natText depth ++ ": " ++ natText rows ++ " rows, " ++
        natText columns ++ " columns"
  | .failed depth error => "pipeline failed at depth " ++ natText depth ++ ": " ++ error.message

/-- The log line of an event. -/
def line (event : Event) : String :=
  event.level.name ++ " " ++ event.message

end Event

end TableFlow
