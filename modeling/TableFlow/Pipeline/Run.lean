import TableFlow.Json.Skip
import TableFlow.Pipeline.Combine
import TableFlow.Pipeline.Event
import TableFlow.Pipeline.Step

/-!
# Running steps

A step is executed in an environment, which finds domains by name and says how deep pipelines may
nest. Running a list of steps threads a table through them and stops at the first failure. A
pipeline in place runs from the empty table, one level deeper than the step that holds it.
Everything is reported as events, in order.
-/

namespace TableFlow

open TableFlow.Json

/-- The configuration of a run. -/
structure Config where
  nestingLimit : Nat := 16
  logTables : Bool := true
  deriving DecidableEq

namespace Config

/-- The configuration that a text stores; what is missing has its default. -/
def ofText? (text : String) : Option Config :=
  match readRecord? ["max_nesting_depth", "log_tables"] text with
  | some [nestingLimit, logTables] => do
      let base : Config := {}
      return { nestingLimit :=
                 ← defaulted base.nestingLimit (natBelow? 18446744073709551616) nestingLimit
               logTables := ← defaulted base.logTables boolean? logTables }
  | _ => none

end Config

/-- Whether pipelines written in place may run. -/
inductive Nesting where
  | upTo (limit : Nat)
  | unavailable
  deriving DecidableEq

/-- What steps find around them. -/
structure Environment where
  retrieve : String → Except StepError Table
  nesting : Nesting := .upTo 16
  logTables : Bool := true

/-- The environment of a configuration. -/
def Environment.ofConfig (retrieve : String → Except StepError Table) (config : Config) :
    Environment :=
  { retrieve, nesting := .upTo config.nestingLimit, logTables := config.logTables }

/-- A result with the events that led to it. -/
structure Logged (α : Type) where
  events : List Event
  result : α

/-- Why a pipeline in place may not run below a depth, if it may not. -/
def Environment.refusal? (environment : Environment) (depth : Nat) : Option StepError :=
  match environment.nesting with
  | .unavailable => some (.invalid .nestingUnavailable)
  | .upTo limit =>
      if limit < depth + 1 then some (.invalid (.nestedTooDeep limit)) else none

/-- The event that a step has produced a table, if the environment wants it. -/
def Environment.produced (environment : Environment) (index : Nat) (step : String)
    (table : Table) : List Event :=
  if environment.logTables then [.produced index step table.rowCount table.names] else []

/-- The last event of a run. -/
def closing (depth : Nat) : Except RunError Table → Event
  | .ok table => .completed depth table.rowCount table.columns.length
  | .error error => .failed depth error

mutual

/-- Execute a step on a table. -/
def Step.execute (environment : Environment) (depth : Nat) :
    Step → Table → Logged (Except StepError Table)
  | .domain name, _ => { events := [.retrieving name], result := environment.retrieve name }
  | .append sources, table =>
      let resolved := Source.resolveAll environment depth sources
      { events := resolved.events
        result :=
          match resolved.result with
          | .error error => .error error
          | .ok tables => appendTables (table :: tables) }
  | .join source kind keys, table =>
      let resolved := source.resolve environment depth
      { events := resolved.events
        result :=
          match resolved.result with
          | .error error => .error error
          | .ok right => joinTables kind keys table right }
  | .transform operation, table => { events := [], result := operation.apply table }

/-- The table of a source. -/
def Source.resolve (environment : Environment) (depth : Nat) :
    Source → Logged (Except StepError Table)
  | .domain name => { events := [.retrieving name], result := environment.retrieve name }
  | .inline steps =>
      match environment.refusal? depth with
      | some error => { events := [], result := .error error }
      | none =>
          let run := Step.runFrom environment (depth + 1) 0 steps Table.empty
          { events :=
              .started steps.length (depth + 1) :: run.events ++ [closing (depth + 1) run.result]
            result :=
              match run.result with
              | .error error => .error (.ofRun error)
              | .ok table => .ok table }

/-- The tables of some sources; the first failure ends it. -/
def Source.resolveAll (environment : Environment) (depth : Nat) :
    List Source → Logged (Except StepError (List Table))
  | [] => { events := [], result := .ok [] }
  | source :: rest =>
      let first := source.resolve environment depth
      match first.result with
      | .error error => { events := first.events, result := .error error }
      | .ok table =>
          let others := Source.resolveAll environment depth rest
          { events := first.events ++ others.events
            result :=
              match others.result with
              | .error error => .error error
              | .ok tables => .ok (table :: tables) }

/-- Run steps one after the other; the first of them has the given index. -/
def Step.runFrom (environment : Environment) (depth index : Nat) :
    List Step → Table → Logged (Except RunError Table)
  | [], table => { events := [], result := .ok table }
  | step :: rest, table =>
      let done := step.execute environment depth table
      match done.result with
      | .error cause =>
          { events := done.events, result := .error { index, step := step.name, cause } }
      | .ok next =>
          let later := Step.runFrom environment depth (index + 1) rest next
          { events := done.events ++ environment.produced index step.name next ++ later.events
            result := later.result }

end

end TableFlow
