import TableFlow.Pipeline.Machine
import TableFlow.Proofs.Transform.WellFormed

/-!
# Runs carry well-formed tables only

If every domain is well formed and a run starts from a well-formed table, then every table that the
run carries is well formed, and so is every table that a pipeline in place produces on the way, at
any depth.  One step keeps the property; a run is an iteration of steps, and a nested run starts
from the empty table.

Main statement: `Run.tables_wellFormed`.
-/

namespace TableFlow

/-- Every domain that an environment finds is a well-formed table. -/
def Environment.WellFormed (environment : Environment) : Prop :=
  ∀ name, GivesWellFormed (environment.retrieve name)

variable {environment : Environment}

/-- Executing a step keeps tables well formed.  Tables from other sources matter only for the step
that replaces the table by a domain: stacking and joining check the columns they add. -/
theorem Step.givesWellFormed_execute (domains : environment.WellFormed) (depth : Nat) (step : Step)
    {table : Table} (wellFormed : table.WellFormed) :
    GivesWellFormed (step.execute environment depth table).result := by
  cases step with
  | domain name => exact domains name
  | append sources =>
      simp only [execute]
      split <;> simp
  | join source kind keys =>
      simp only [execute]
      split
      · simp
      · exact Table.givesWellFormed_joinTables kind keys wellFormed _
  | transform operation => exact operation.givesWellFormed_apply wellFormed

/-- Running steps from a well-formed table gives a well-formed table or fails. -/
theorem Step.runFrom_wellFormed (domains : environment.WellFormed) (depth : Nat) {steps : List Step}
    {index : Nat} {input output : Table} (wellFormed : input.WellFormed)
    (ran : (Step.runFrom environment depth index steps input).result = .ok output) :
    output.WellFormed := by
  induction steps generalizing index input with
  | nil =>
      simp only [runFrom, Except.ok.injEq] at ran
      exact ran ▸ wellFormed
  | cons step rest ih =>
      simp only [runFrom] at ran
      split at ran
      · cases ran
      · rename_i next executed
        exact ih (givesWellFormed_execute domains depth step wellFormed next executed) ran

/-- The table that a state carries, if it carries one, is well formed. -/
def RunState.WellFormed : RunState → Prop
  | .running _ table => table.WellFormed
  | .completed table => table.WellFormed
  | .idle => True
  | .failed _ => True

namespace Run

variable {run : Run}

/-- One transition keeps the table of the state well formed. -/
theorem advance_wellFormed (domains : run.environment.WellFormed) (input : run.input.WellFormed)
    {state : RunState} (wellFormed : state.WellFormed) :
    (run.advance state).result.WellFormed := by
  rw [advance_result]
  cases state with
  | idle =>
      simp only [next]
      split <;> exact input
  | running index table =>
      simp only [next]
      split
      · exact wellFormed
      · rename_i step found
        split
        · exact True.intro
        · rename_i output executed
          have outputWellFormed :=
            step.givesWellFormed_execute domains run.depth wellFormed output executed
          simp only
          split <;> exact outputWellFormed
  | completed table => exact wellFormed
  | failed error => exact True.intro

/-- So do any number of transitions. -/
theorem stateAfter_wellFormed (domains : run.environment.WellFormed)
    (input : run.input.WellFormed) (transitions : Nat) {state : RunState}
    (wellFormed : state.WellFormed) : (run.stateAfter transitions state).WellFormed := by
  induction transitions generalizing state with
  | zero => exact wellFormed
  | succ transitions ih => exact ih (advance_wellFormed domains input wellFormed)

end Run

/-- Executing a step at a depth starts a run of a pipeline in place: the source of a join, or a
source of an append whose earlier sources have all given tables. -/
inductive Step.Starts (environment : Environment) (depth : Nat) : Step → List Step → Prop where
  | join {steps : List Step} {kind : JoinKind} {keys : List (String × String)}
      (allowed : environment.refusal? depth = none) :
      Starts environment depth (.join (.inline steps) kind keys) steps
  | append {earlier later : List Source} {steps : List Step} {tables : List Table}
      (resolved : (Source.resolveAll environment depth earlier).result = .ok tables)
      (allowed : environment.refusal? depth = none) :
      Starts environment depth (.append (earlier ++ .inline steps :: later)) steps

/-- A run of some steps from a table, at a depth of nesting. -/
structure RunAt where
  depth : Nat
  steps : List Step
  input : Table

namespace RunAt

/-- The result of executing the first steps of a run. -/
def resultAfter (environment : Environment) (run : RunAt) (count : Nat) : Except RunError Table :=
  (Step.runFrom environment run.depth 0 (run.steps.take count) run.input).result

/-- One run takes place within another: it is that run, or it lies within a run that a step of it
starts once the steps before have succeeded.  A pipeline in place starts from the empty table. -/
inductive Within (environment : Environment) : RunAt → RunAt → Prop where
  | itself (run : RunAt) : Within environment run run
  | nested {inner outer : RunAt} {count : Nat} {step : Step} {table : Table} {steps : List Step}
      (reached : outer.resultAfter environment count = .ok table)
      (next : outer.steps[count]? = some step)
      (starts : step.Starts environment outer.depth steps)
      (within : Within environment inner ⟨outer.depth + 1, steps, Table.empty⟩) :
      Within environment inner outer

/-- A run within another one starts from the input of that run or from the empty table. -/
theorem Within.input_wellFormed {inner outer : RunAt} (within : Within environment inner outer)
    (wellFormed : outer.input.WellFormed) : inner.input.WellFormed := by
  induction within with
  | itself => exact wellFormed
  | nested reached next starts within ih => exact ih Table.wellFormed_empty

end RunAt

/-- Every table that a run carries is well formed, after any number of transitions.  So is every
table along every run that takes place within it: the run itself and the pipelines in place that its
steps start, those that their steps start, and so on. -/
theorem Run.tables_wellFormed (run : Run) (domains : run.environment.WellFormed)
    (input : run.input.WellFormed) :
    (∀ transitions, (run.stateAfter transitions .idle).WellFormed) ∧
      ∀ inner, RunAt.Within run.environment inner ⟨run.depth, run.pipeline.steps, run.input⟩ →
        ∀ count table, inner.resultAfter run.environment count = .ok table →
          table.WellFormed := by
  constructor
  · intro transitions
    exact stateAfter_wellFormed domains input transitions True.intro
  · intro inner within count table ran
    exact Step.runFrom_wellFormed domains inner.depth (within.input_wellFormed input) ran

/-- A run that stacks the result of a pipeline in place under its input. -/
def stackedRun : Run where
  environment := { retrieve := fun _ => .ok ⟨[⟨"item", [.text "pen", .null]⟩], 2⟩ }
  pipeline := ⟨[.append [.inline [.domain "stock"]]], rfl⟩
  input := ⟨[⟨"price", [.integer 3]⟩], 1⟩

/-- The theorem at a run that starts another one: both tables have their shape by its conclusion. -/
theorem Run.tables_wellFormed_stackedRun :
    stackedRun.environment.WellFormed ∧ stackedRun.input.WellFormed ∧
      (stackedRun.stateAfter 2 .idle).WellFormed ∧
      ∃ table, RunAt.resultAfter stackedRun.environment ⟨1, [.domain "stock"], Table.empty⟩ 1 =
        .ok table ∧ table.WellFormed := by
  have domains : stackedRun.environment.WellFormed := by
    intro name
    rw [stackedRun, givesWellFormed_ok]
    exact ⟨by decide, by simp⟩
  have input : stackedRun.input.WellFormed := ⟨by decide, by simp [stackedRun]⟩
  have reached : RunAt.resultAfter stackedRun.environment
      ⟨stackedRun.depth, stackedRun.pipeline.steps, stackedRun.input⟩ 0 = .ok stackedRun.input :=
    rfl
  have starts : Step.Starts stackedRun.environment 0
      (.append ([] ++ .inline [.domain "stock"] :: [])) [.domain "stock"] := .append rfl rfl
  have within : RunAt.Within stackedRun.environment ⟨1, [.domain "stock"], Table.empty⟩
      ⟨stackedRun.depth, stackedRun.pipeline.steps, stackedRun.input⟩ :=
    .nested reached rfl starts (.itself _)
  obtain ⟨states, tables⟩ := Run.tables_wellFormed stackedRun domains input
  exact ⟨domains, input, states 2, _, rfl, tables _ within 1 _ rfl⟩

end TableFlow
