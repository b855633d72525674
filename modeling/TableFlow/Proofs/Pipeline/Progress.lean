import TableFlow.Pipeline.Machine

/-!
# A run is a fold over its steps

Advancing a run one transition at a time visits the results of ever longer prefixes of its steps.
The first transition starts the run; each later one performs one step, until a step fails or none is
left.  From then on the state stays, so it makes no difference how often a run was advanced before
it is finished.

Main statement: `Run.stateAfter_refines_fold`.  `Run.complete_eq` says the same of a whole run, with
the events it reports.
-/

namespace TableFlow.Run

/-- The table after the first steps of a run: each step is executed on the result of the one before,
and the first failure ends it. -/
def tableAfter (run : Run) (count : Nat) : Except StepError Table :=
  (run.pipeline.steps.take count).foldlM
    (fun table step => (step.execute run.environment run.depth table).result) run.input

variable {run : Run}

@[simp] theorem tableAfter_zero : run.tableAfter 0 = .ok run.input := by
  simp [tableAfter, pure, Except.pure]

/-- One step more executes that step on the table of the steps before. -/
theorem tableAfter_succ {count : Nat} {step : Step}
    (found : run.pipeline.steps[count]? = some step) :
    run.tableAfter (count + 1) =
      (run.tableAfter count).bind fun table =>
        (step.execute run.environment run.depth table).result := by
  simp only [tableAfter, List.take_add_one, found, Option.toList_some, List.foldlM_append,
    List.foldlM_cons, List.foldlM_nil, bind_pure]
  rfl

/-- If the first steps succeed together with one more, they succeed without it. -/
theorem exists_of_tableAfter_succ {count : Nat} {step : Step} {output : Table}
    (found : run.pipeline.steps[count]? = some step)
    (folded : run.tableAfter (count + 1) = .ok output) :
    ∃ table, run.tableAfter count = .ok table ∧
      (step.execute run.environment run.depth table).result = .ok output := by
  rw [tableAfter_succ found] at folded
  cases before : run.tableAfter count with
  | error error => simp [before, Except.bind] at folded
  | ok table =>
      rw [before] at folded
      exact ⟨table, rfl, folded⟩

theorem advance_idle_result :
    (run.advance .idle).result =
      if run.pipeline.steps.isEmpty then .completed run.input else .running 0 run.input := by
  rw [advance_result, next]

theorem advance_running_of_ok {index : Nat} {table output : Table} {step : Step}
    (found : run.pipeline.steps[index]? = some step)
    (executed : (step.execute run.environment run.depth table).result = .ok output) :
    (run.advance (.running index table)).result =
      if index + 1 = run.pipeline.steps.length then .completed output
      else .running (index + 1) output := by
  simp only [advance_result, next, found, executed]

theorem advance_running_of_error {index : Nat} {table : Table} {step : Step} {cause : StepError}
    (found : run.pipeline.steps[index]? = some step)
    (executed : (step.execute run.environment run.depth table).result = .error cause) :
    (run.advance (.running index table)).result =
      .failed { index, step := step.name, cause } := by
  simp only [advance_result, next, found, executed]

/-- A run that has ended stays as it is. -/
theorem advance_of_isTerminal {state : RunState} (ended : state.isTerminal = true) :
    (run.advance state).result = state := by
  rw [advance_result]
  cases state with
  | idle => simp [RunState.isTerminal, RunState.result?] at ended
  | running index table => simp [RunState.isTerminal, RunState.result?] at ended
  | completed table => rfl
  | failed error => rfl

/-- No transition leads back to the start, so the input of a run is taken once. -/
theorem advance_ne_idle (state : RunState) : (run.advance state).result ≠ .idle := by
  rw [advance_result]
  cases state with
  | idle =>
      rw [next]
      dsimp only
      split <;> simp
  | running index table =>
      rw [next]
      split
      · simp
      · dsimp only
        split
        · simp
        · dsimp only
          split <;> simp
  | completed table => simp [next]
  | failed error => simp [next]

/-- The last transition can be split off instead of the first. -/
theorem stateAfter_succ (transitions : Nat) (state : RunState) :
    run.stateAfter (transitions + 1) state =
      (run.advance (run.stateAfter transitions state)).result := by
  induction transitions generalizing state with
  | zero => rfl
  | succ transitions ih => exact ih (run.advance state).result

theorem stateAfter_eq_idle_iff (transitions : Nat) :
    run.stateAfter transitions .idle = .idle ↔ transitions = 0 := by
  cases transitions with
  | zero => exact ⟨fun _ => rfl, fun _ => rfl⟩
  | succ transitions =>
      rw [stateAfter_succ]
      exact ⟨fun idle => absurd idle (advance_ne_idle _), fun zero => absurd zero (by omega)⟩

/-- Once a run has ended, further transitions leave it there. -/
theorem stateAfter_of_le {early late : Nat} (le : early ≤ late) {state ending : RunState}
    (reached : run.stateAfter early state = ending) (ended : ending.isTerminal = true) :
    run.stateAfter late state = ending := by
  induction le with
  | refl => exact reached
  | step _ ih => rw [stateAfter_succ, ih, advance_of_isTerminal ended]

/-- As long as no step has failed and one is left, the run waits for that one. -/
theorem stateAfter_running {count : Nat} {table : Table}
    (left : count < run.pipeline.steps.length) (folded : run.tableAfter count = .ok table) :
    run.stateAfter (count + 1) .idle = .running count table := by
  induction count generalizing table with
  | zero =>
      have nonempty : run.pipeline.steps.isEmpty = false := by
        rw [List.isEmpty_eq_false_iff]
        exact List.ne_nil_of_length_pos left
      rw [tableAfter_zero, Except.ok.injEq] at folded
      rw [stateAfter_succ, stateAfter, advance_idle_result, nonempty, ← folded]
      rfl
  | succ count ih =>
      have found := List.getElem?_eq_getElem (Nat.lt_of_succ_lt left)
      obtain ⟨before, beforeFolded, executed⟩ := exists_of_tableAfter_succ found folded
      rw [stateAfter_succ, ih (Nat.lt_of_succ_lt left) beforeFolded,
        advance_running_of_ok found executed, if_neg (Nat.ne_of_lt left)]

/-- The first step that fails ends the run with its error. -/
theorem stateAfter_failed {index transitions : Nat} {step : Step} {table : Table}
    {cause : StepError} (late : index < transitions)
    (found : run.pipeline.steps[index]? = some step) (folded : run.tableAfter index = .ok table)
    (executed : (step.execute run.environment run.depth table).result = .error cause) :
    run.stateAfter (transitions + 1) .idle = .failed { index, step := step.name, cause } := by
  have left : index < run.pipeline.steps.length := (List.getElem?_eq_some_iff.1 found).1
  have reached : run.stateAfter (index + 1 + 1) .idle =
      .failed { index, step := step.name, cause } := by
    rw [stateAfter_succ, stateAfter_running left folded, advance_running_of_error found executed]
  exact stateAfter_of_le (Nat.succ_le_succ late) reached rfl

/-- When all steps have succeeded the run has completed with the table of the whole fold. -/
theorem stateAfter_completed {transitions : Nat} {table : Table}
    (late : run.pipeline.steps.length ≤ transitions)
    (folded : run.tableAfter run.pipeline.steps.length = .ok table) :
    run.stateAfter (transitions + 1) .idle = .completed table := by
  have reached : run.stateAfter (run.pipeline.steps.length + 1) .idle = .completed table := by
    -- The last step has a transition of its own: it completes the run instead of waiting for the
    -- next.
    cases lengthEq : run.pipeline.steps.length with
    | zero =>
        rw [lengthEq, tableAfter_zero, Except.ok.injEq] at folded
        rw [stateAfter_succ, stateAfter, advance_idle_result, ← folded,
          List.length_eq_zero_iff.1 lengthEq]
        rfl
    | succ last =>
        have left : last < run.pipeline.steps.length := by omega
        have found := List.getElem?_eq_getElem left
        rw [lengthEq] at folded
        obtain ⟨before, beforeFolded, executed⟩ := exists_of_tableAfter_succ found folded
        rw [stateAfter_succ, stateAfter_running left beforeFolded,
          advance_running_of_ok found executed, if_pos lengthEq.symm]
  exact stateAfter_of_le (Nat.succ_le_succ late) reached rfl

/-- The index of a running state belongs to a step. -/
def IndexInRange (run : Run) : RunState → Prop
  | .running index _ => index < run.pipeline.steps.length
  | _ => True

theorem advance_indexInRange {state : RunState} (inRange : run.IndexInRange state) :
    run.IndexInRange (run.advance state).result := by
  cases state with
  | idle =>
      rw [advance_idle_result]
      split
      · exact True.intro
      · rename_i nonempty
        rw [List.isEmpty_iff] at nonempty
        exact List.length_pos_iff.2 nonempty
  | running index table =>
      have found := List.getElem?_eq_getElem inRange
      cases executed :
        (run.pipeline.steps[index].execute run.environment run.depth table).result with
      | error cause =>
          rw [advance_running_of_error found executed]
          exact True.intro
      | ok output =>
          rw [advance_running_of_ok found executed]
          split
          · exact True.intro
          · rename_i notLast
            exact Nat.lt_of_le_of_ne inRange notLast
  | completed table =>
      rw [advance_of_isTerminal rfl]
      exact True.intro
  | failed error =>
      rw [advance_of_isTerminal rfl]
      exact True.intro

theorem stateAfter_indexInRange (transitions : Nat) :
    run.IndexInRange (run.stateAfter transitions .idle) := by
  induction transitions with
  | zero => exact True.intro
  | succ transitions ih =>
      rw [stateAfter_succ]
      exact advance_indexInRange ih

/-- A transition does not change what a run comes to. -/
theorem finish_advance_result (state : RunState) :
    (run.finish (run.advance state).result).result = (run.finish state).result := by
  cases ended : state.result? with
  | some result =>
      have terminal : state.isTerminal = true := by simp [RunState.isTerminal, ended]
      rw [advance_of_isTerminal terminal]
  | none =>
      conv => rhs; rw [finish]
      split
      · rename_i result found
        rw [ended] at found
        cases found
      · rfl

theorem finish_stateAfter_result (transitions : Nat) (state : RunState) :
    (run.finish (run.stateAfter transitions state)).result = (run.finish state).result := by
  induction transitions with
  | zero => rfl
  | succ transitions ih => rw [stateAfter_succ, finish_advance_result, ih]

theorem finish_of_result? {state : RunState} {result : Except RunError Table}
    (ended : state.result? = some result) : run.finish state = { events := [], result } := by
  rw [finish]
  split
  · rename_i other found
    rw [ended, Option.some.injEq] at found
    rw [found]
  · rename_i found
    rw [ended] at found
    cases found

theorem finish_of_unended {state : RunState} (unended : state.result? = none) :
    run.finish state =
      { events := (run.advance state).events ++ (run.finish (run.advance state).result).events
        result := (run.finish (run.advance state).result).result } := by
  conv => lhs; rw [finish]
  split
  · rename_i other found
    rw [unended] at found
    cases found
  · rfl

/-- From a running state on, a run executes the remaining steps in order and reports its end. -/
theorem finish_running {index : Nat} {step : Step} {rest : List Step} (table : Table)
    (remaining : run.pipeline.steps.drop index = step :: rest) :
    run.finish (.running index table) =
      let ran := Step.runFrom run.environment run.depth index (step :: rest) table
      { events := ran.events ++ [closing run.depth ran.result], result := ran.result } := by
  have found : run.pipeline.steps[index]? = some step := by
    rw [← List.head?_drop, remaining, List.head?_cons]
  have length : run.pipeline.steps.length - index = rest.length + 1 := by
    rw [← List.length_drop, remaining, List.length_cons]
  rw [finish_of_unended rfl]
  simp only [Step.runFrom]
  cases executed : (step.execute run.environment run.depth table).result with
  | error cause => simp [advance, next, found, executed, RunState.result?, finish_of_result?]
  | ok output =>
      cases rest with
      | nil =>
          have last : index + 1 = run.pipeline.steps.length := by
            rw [List.length_nil] at length
            omega
          simp [advance, next, found, executed, last, RunState.result?, finish_of_result?,
            Step.runFrom]
      | cons following rest =>
          have notLast : index + 1 ≠ run.pipeline.steps.length := by
            rw [List.length_cons] at length
            omega
          have remaining' : run.pipeline.steps.drop (index + 1) = following :: rest := by
            rw [← List.tail_drop, remaining, List.tail_cons]
          -- The recursion is on the steps that remain.
          simp [advance, next, found, executed, notLast, RunState.result?,
            finish_running output remaining']

/-- Completing a run executes all its steps in order, between the reports of its start and its
end. -/
theorem complete_eq (run : Run) :
    run.complete =
      let ran := Step.runFrom run.environment run.depth 0 run.pipeline.steps run.input
      { events := .started run.pipeline.steps.length run.depth :: ran.events ++
          [closing run.depth ran.result]
        result := ran.result } := by
  rw [complete, finish_of_unended rfl]
  cases steps : run.pipeline.steps with
  | nil => simp [advance, next, steps, RunState.result?, finish_of_result?, Step.runFrom]
  | cons step rest =>
      have started : run.finish (.running 0 run.input) =
          let ran := Step.runFrom run.environment run.depth 0 (step :: rest) run.input
          { events := ran.events ++ [closing run.depth ran.result], result := ran.result } :=
        finish_running run.input steps
      simp [advance, next, steps, RunState.result?, started]

/-- A pipeline in place is a run of its own: one level below, and from the empty table. -/
theorem resolve_inline_eq_complete {environment : Environment} {depth : Nat} (pipeline : Pipeline)
    (allowed : environment.refusal? depth = none) :
    (Source.inline pipeline.steps).resolve environment depth =
      let nested : Run := { environment, pipeline, input := Table.empty, depth := depth + 1 }
      { events := nested.complete.events
        result := nested.complete.result.mapError StepError.ofRun } := by
  simp only [Source.resolve, allowed, complete_eq]
  cases (Step.runFrom environment (depth + 1) 0 pipeline.steps Table.empty).result with
  | error error => rfl
  | ok table => rfl

/-- The states of a run are those of a fold of its steps over the input.  One transition more than
`count` leads to the step of index `count` on the table of the steps before, if they succeed and
there is such a step; to the failure of the first step that failed, by its index, name and error; or
to completion with the table of all steps.  States at an end stay, a waiting state has the index of
a step, and finishing gives the same result whenever it is asked for. -/
theorem stateAfter_refines_fold (run : Run) :
    (∀ count table, count < run.pipeline.steps.length → run.tableAfter count = .ok table →
        run.stateAfter (count + 1) .idle = .running count table) ∧
      (∀ count index step table cause, index < count →
        run.pipeline.steps[index]? = some step → run.tableAfter index = .ok table →
        (step.execute run.environment run.depth table).result = .error cause →
        run.stateAfter (count + 1) .idle = .failed { index, step := step.name, cause }) ∧
      (∀ count table, run.pipeline.steps.length ≤ count →
        run.tableAfter run.pipeline.steps.length = .ok table →
        run.stateAfter (count + 1) .idle = .completed table) ∧
      (∀ state : RunState, state.isTerminal = true → (run.advance state).result = state) ∧
      (∀ transitions index table, run.stateAfter transitions .idle = .running index table →
        index < run.pipeline.steps.length) ∧
      (∀ transitions,
        (run.finish (run.stateAfter transitions .idle)).result = run.complete.result) := by
  refine ⟨?_, ?_, ?_, ?_, ?_, ?_⟩
  · intro count table left folded
    exact stateAfter_running left folded
  · intro count index step table cause late found folded executed
    exact stateAfter_failed late found folded executed
  · intro count table late folded
    exact stateAfter_completed late folded
  · intro state ended
    exact advance_of_isTerminal ended
  · intro transitions index table reached
    have inRange := run.stateAfter_indexInRange transitions
    rw [reached] at inRange
    exact inRange
  · intro transitions
    exact finish_stateAfter_result transitions .idle

/-- A run of two steps of which the second asks for a domain that is missing. -/
def missingDomainRun : Run where
  environment :=
    { retrieve := fun name => if name = "stock" then .ok ⟨[], 4⟩ else .error (.missingDomain name) }
  pipeline := ⟨[.domain "stock", .domain "sales"], by decide⟩
  input := Table.empty

/-- The theorem at a run that waits twice and then fails for good. -/
theorem stateAfter_refines_fold_missingDomain :
    missingDomainRun.stateAfter 2 .idle = .running 1 ⟨[], 4⟩ ∧
      missingDomainRun.stateAfter 5 .idle =
        .failed { index := 1, step := "domain", cause := .missingDomain "sales" } ∧
      (missingDomainRun.finish (missingDomainRun.stateAfter 2 .idle)).result =
        missingDomainRun.complete.result := by
  obtain ⟨waits, fails, _, _, _, finishes⟩ := stateAfter_refines_fold missingDomainRun
  refine ⟨waits 1 _ (by decide) rfl, ?_, finishes 2⟩
  exact fails 4 1 (.domain "sales") ⟨[], 4⟩ (.missingDomain "sales") (by decide) rfl rfl rfl

end TableFlow.Run
