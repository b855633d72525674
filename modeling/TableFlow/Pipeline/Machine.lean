import TableFlow.Pipeline.Run

/-!
# Runs as state machines

A run can be advanced one transition at a time: it starts, performs its steps one by one, and ends
completed or failed. A run that has ended stays as it is.
-/

namespace TableFlow

/-- The state of a run. In a running state the step of the given index is next. -/
inductive RunState where
  | idle
  | running (index : Nat) (table : Table)
  | completed (table : Table)
  | failed (error : RunError)

namespace RunState

/-- The result of a run that has ended. -/
def result? : RunState → Option (Except RunError Table)
  | .completed table => some (.ok table)
  | .failed error => some (.error error)
  | _ => none

/-- Whether a run has ended. -/
def isTerminal (state : RunState) : Bool :=
  state.result?.isSome

end RunState

/-- A run of a pipeline from an input, at a depth of nesting. -/
structure Run where
  environment : Environment
  pipeline : Pipeline
  input : Table
  depth : Nat := 0

namespace Run

/-- The transition of a run that has not ended: starting it, or performing a step. -/
def next (run : Run) : RunState → Logged RunState
  | .idle =>
      { events := [.started run.pipeline.steps.length run.depth]
        result :=
          if run.pipeline.steps.isEmpty then .completed run.input else .running 0 run.input }
  | .running index table =>
      match run.pipeline.steps[index]? with
      | none => { events := [], result := .completed table }
      | some step =>
          let done := step.execute run.environment run.depth table
          match done.result with
          | .error cause =>
              { events := done.events, result := .failed { index, step := step.name, cause } }
          | .ok output =>
              { events := done.events ++ run.environment.produced index step.name output
                result :=
                  if index + 1 = run.pipeline.steps.length then .completed output
                  else .running (index + 1) output }
  | state => { events := [], result := state }

/-- One transition, with the closing event when it reaches or finds the end. -/
def advance (run : Run) (state : RunState) : Logged RunState :=
  let moved := run.next state
  match moved.result.result? with
  | some result => { moved with events := moved.events ++ [closing run.depth result] }
  | none => moved

/-- How many transitions a state is away from the end at most. -/
def distance (run : Run) : RunState → Nat
  | .idle => run.pipeline.steps.length + 2
  | .running index _ => run.pipeline.steps.length - index + 1
  | .completed _ => 0
  | .failed _ => 0

/-- The closing event apart, advancing is the transition. -/
theorem advance_result (run : Run) (state : RunState) :
    (run.advance state).result = (run.next state).result := by
  rw [advance]
  split <;> rfl

/-- A transition of a run that has not ended brings it nearer to its end. -/
theorem distance_advance_lt {run : Run} {state : RunState} (unended : state.result? = none) :
    run.distance (run.advance state).result < run.distance state := by
  rw [advance_result]
  cases state with
  | idle =>
      simp only [next]
      split <;> simp [distance]
  | running index table =>
      simp only [next]
      split
      · simp [distance]
      · rename_i step found
        have bound := (List.getElem?_eq_some_iff.1 found).1
        split
        · simp [distance]
        · simp only
          split
          · simp [distance]
          · simp only [distance]
            omega
  | completed table => simp [RunState.result?] at unended
  | failed error => simp [RunState.result?] at unended

/-- Bring a run to its end from a state. -/
def finish (run : Run) (state : RunState) : Logged (Except RunError Table) :=
  match ended : state.result? with
  | some result => { events := [], result }
  | none =>
      have : run.distance (run.advance state).result < run.distance state :=
        distance_advance_lt ended
      let moved := run.advance state
      let later := run.finish moved.result
      { events := moved.events ++ later.events, result := later.result }
termination_by run.distance state

/-- The states from a state to the end of a run, both included. -/
def statesFrom (run : Run) (state : RunState) : List RunState :=
  match ended : state.result? with
  | some _ => [state]
  | none =>
      have : run.distance (run.advance state).result < run.distance state :=
        distance_advance_lt ended
      state :: run.statesFrom (run.advance state).result
termination_by run.distance state

/-- The states of the first transitions from a state, the state itself included. -/
def statesUpTo (run : Run) : (transitions : Nat) → RunState → List RunState
  | 0, state => [state]
  | transitions + 1, state =>
      state :: run.statesUpTo transitions (run.advance state).result

def stateAfter (run : Run) : (transitions : Nat) → RunState → RunState
  | 0, state => state
  | transitions + 1, state => run.stateAfter transitions (run.advance state).result

/-- Bring a run to its end from the start. -/
def complete (run : Run) : Logged (Except RunError Table) :=
  run.finish .idle

end Run

end TableFlow
