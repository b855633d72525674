import TableFlow.Pipeline.Catalog
import TableFlow.Proofs.Pipeline.Progress
import TableFlow.Proofs.Pipeline.WellFormed
import TableFlow.Proofs.Transform.Errors

/-!
# Failures are traced to a failing step

The error of a run names a step that fails on the table of the steps before it.  When the cause is
the failure of a nested run, the step is a join or an append, a pipeline in place among its sources
has failed with just that error, and the same can be said of the error of that pipeline, and so on
down to a cause that is no nested failure.  Errors are built level by level, so the argument is an
induction on the cause.

Main statement: `Run.complete_error_traced`.
-/

namespace TableFlow

/-- The way of an error through the levels of a run, down to the `root` from which it came.  On each
level the error has the index and the name of a step, the steps before it give a table, and its
cause is the error of the step on that table.  Either that cause is the root, or it is the failure
of a pipeline in place that the step starts one level deeper, from the empty table. -/
inductive RunAt.Traced (environment : Environment) :
    RunAt → RunError → (root : StepError) → Prop where
  | here {run : RunAt} {index : Nat} {step : Step} {table : Table} {cause : StepError}
      (before : run.resultAfter environment index = .ok table)
      (next : run.steps[index]? = some step)
      (failed : (step.execute environment run.depth table).result = .error cause)
      (plain : cause.isNested = false) :
      Traced environment run { index, step := step.name, cause } cause
  | nested {run : RunAt} {index : Nat} {step : Step} {table : Table} {steps : List Step}
      {inner : RunError} {root : StepError}
      (before : run.resultAfter environment index = .ok table)
      (next : run.steps[index]? = some step)
      (failed : (step.execute environment run.depth table).result = .error (.ofRun inner))
      (starts : step.Starts environment run.depth steps)
      (ran : (Step.runFrom environment (run.depth + 1) 0 steps Table.empty).result = .error inner)
      (within : Traced environment ⟨run.depth + 1, steps, Table.empty⟩ inner root) :
      Traced environment run { index, step := step.name, cause := .ofRun inner } root

variable {environment : Environment} {depth : Nat}

/-- A failed run has a step that fails on the table of the steps before. -/
theorem Step.exists_of_runFrom_error {steps : List Step} {index : Nat} {input : Table}
    {error : RunError}
    (failed : (Step.runFrom environment depth index steps input).result = .error error) :
    ∃ count step table,
      error = { index := index + count, step := step.name, cause := error.cause } ∧
      steps[count]? = some step ∧
      (Step.runFrom environment depth index (steps.take count) input).result = .ok table ∧
      (step.execute environment depth table).result = .error error.cause := by
  induction steps generalizing index input with
  | nil => cases failed
  | cons step rest ih =>
      simp only [runFrom] at failed
      split at failed
      · rename_i cause executed
        cases failed
        exact ⟨0, step, input, rfl, rfl, rfl, executed⟩
      · rename_i next executed
        obtain ⟨count, found, table, errorEq, foundEq, before, failing⟩ := ih failed
        refine ⟨count + 1, found, table, ?_, foundEq, ?_, failing⟩
        · rw [errorEq, Nat.add_right_comm, Nat.add_assoc]
        · simp only [List.take_succ_cons, runFrom, executed]
          exact before

/-- Sources fail with the error of one of them, once all sources before it have given tables. -/
theorem Source.exists_of_resolveAll_error {sources : List Source} {cause : StepError}
    (failed : (Source.resolveAll environment depth sources).result = .error cause) :
    ∃ earlier source later tables, sources = earlier ++ source :: later ∧
      (Source.resolveAll environment depth earlier).result = .ok tables ∧
      (source.resolve environment depth).result = .error cause := by
  induction sources with
  | nil => cases failed
  | cons source rest ih =>
      simp only [resolveAll] at failed
      split at failed
      · rename_i error resolved
        cases failed
        exact ⟨[], source, rest, [], rfl, rfl, resolved⟩
      · rename_i table resolved
        simp only at failed
        split at failed
        · rename_i error others
          cases failed
          obtain ⟨earlier, failing, later, tables, sourcesEq, before, failedThere⟩ := ih others
          refine ⟨source :: earlier, failing, later, table :: tables, ?_, ?_, failedThere⟩
          · rw [sourcesEq, List.cons_append]
          · simp only [resolveAll, resolved, before]
        · cases failed

/-- Only a pipeline in place fails as a nested run does, with the error of its run. -/
theorem Source.exists_of_resolve_nested (domains : ∀ name, FailsPlainly (environment.retrieve name))
    {source : Source} {cause : StepError}
    (failed : (source.resolve environment depth).result = .error cause)
    (nested : cause.isNested = true) :
    ∃ steps inner, source = .inline steps ∧ environment.refusal? depth = none ∧
      (Step.runFrom environment (depth + 1) 0 steps Table.empty).result = .error inner ∧
      cause = .ofRun inner := by
  cases source with
  | domain name =>
      rw [domains name cause failed] at nested
      cases nested
  | inline steps =>
      simp only [resolve] at failed
      split at failed
      · rename_i error refused
        cases failed
        have plain : cause.isNested = false := by
          simp only [Environment.refusal?] at refused
          split at refused
          · cases refused
            rfl
          · split at refused
            · cases refused
              rfl
            · cases refused
        rw [plain] at nested
        cases nested
      · rename_i allowed
        split at failed
        · rename_i inner ran
          cases failed
          exact ⟨steps, inner, rfl, allowed, ran, rfl⟩
        · cases failed

/-- Only a join or an append fails as a nested run does: with the error of a pipeline in place that
it has started. -/
theorem Step.exists_of_execute_nested (domains : ∀ name, FailsPlainly (environment.retrieve name))
    {step : Step} {table : Table} {cause : StepError}
    (failed : (step.execute environment depth table).result = .error cause)
    (nested : cause.isNested = true) :
    ∃ steps inner, step.Starts environment depth steps ∧
      (Step.runFrom environment (depth + 1) 0 steps Table.empty).result = .error inner ∧
      cause = .ofRun inner := by
  cases step with
  | domain name =>
      rw [domains name cause failed] at nested
      cases nested
  | transform operation =>
      rw [operation.failsPlainly_apply table cause failed] at nested
      cases nested
  | append sources =>
      simp only [execute] at failed
      split at failed
      · rename_i error resolved
        cases failed
        obtain ⟨earlier, source, later, tables, rfl, before, failedThere⟩ :=
          Source.exists_of_resolveAll_error resolved
        obtain ⟨steps, inner, rfl, allowed, ran, causeEq⟩ :=
          Source.exists_of_resolve_nested domains failedThere nested
        exact ⟨steps, inner, .append before allowed, ran, causeEq⟩
      · rw [Table.failsPlainly_appendTables _ cause failed] at nested
        cases nested
  | join source kind keys =>
      simp only [execute] at failed
      split at failed
      · rename_i error resolved
        cases failed
        obtain ⟨steps, inner, rfl, allowed, ran, causeEq⟩ :=
          Source.exists_of_resolve_nested domains resolved nested
        exact ⟨steps, inner, .join allowed, ran, causeEq⟩
      · rw [Table.failsPlainly_joinTables _ _ _ _ cause failed] at nested
        cases nested

/-- A failed run is traced to a root, whose sort is the sort of the error. -/
theorem RunAt.traced_of_error (domains : ∀ name, FailsPlainly (environment.retrieve name))
    (run : RunAt) {error : RunError}
    (failed : (Step.runFrom environment run.depth 0 run.steps run.input).result = .error error) :
    ∃ root, run.Traced environment error root ∧ root.isNested = false ∧
      error.cause.sort = root.sort := by
  obtain ⟨index, name, cause⟩ := error
  induction cause generalizing run index name with
  | nested innerIndex innerName innerCause ih =>
      obtain ⟨count, step, table, errorEq, next, before, executed⟩ :=
        Step.exists_of_runFrom_error failed
      obtain ⟨steps, inner, starts, ran, causeEq⟩ :=
        Step.exists_of_execute_nested domains executed rfl
      cases causeEq
      obtain ⟨root, within, plain, sortEq⟩ :=
        ih ⟨run.depth + 1, steps, Table.empty⟩ inner.index inner.step ran
      rw [Nat.zero_add] at errorEq
      rw [errorEq]
      exact ⟨root, .nested before next executed starts ran within, plain, sortEq⟩
  | _ =>
      obtain ⟨count, step, table, errorEq, next, before, executed⟩ :=
        Step.exists_of_runFrom_error failed
      rw [Nat.zero_add] at errorEq
      rw [errorEq]
      exact ⟨_, .here before next executed rfl, rfl, rfl⟩

theorem RunAt.Traced.index_lt {run : RunAt} {error : RunError} {root : StepError}
    (traced : run.Traced environment error root) : error.index < run.steps.length := by
  cases traced with
  | here before next failed plain => exact (List.getElem?_eq_some_iff.1 next).1
  | nested before next failed starts ran within => exact (List.getElem?_eq_some_iff.1 next).1

/-- A catalog fails for want of a domain only. -/
theorem Catalog.failsPlainly_retrieve (catalog : Catalog) (name : String) :
    FailsPlainly (catalog.retrieve name) := by
  rw [retrieve]
  split
  · exact failsPlainly_ok _
  · exact failsPlainly_error rfl

/-- The error of a failed run belongs to one of its steps and is traced from there, level by level,
to a root: the steps before have succeeded, the named step fails on their table with the cause that
is given, and a cause that is a nested failure is the failure of a pipeline in place that the step
has started, traced in the same way.  The root is no nested failure, and the error has its sort. -/
theorem Run.complete_error_traced (run : Run)
    (domains : ∀ name, FailsPlainly (run.environment.retrieve name)) (error : RunError)
    (failed : run.complete.result = .error error) :
    error.index < run.pipeline.steps.length ∧
      ∃ root, RunAt.Traced run.environment ⟨run.depth, run.pipeline.steps, run.input⟩ error root ∧
        root.isNested = false ∧ error.cause.sort = root.sort := by
  rw [Run.complete_eq] at failed
  obtain ⟨root, traced, plain, sortEq⟩ :=
    RunAt.traced_of_error domains ⟨run.depth, run.pipeline.steps, run.input⟩ failed
  exact ⟨traced.index_lt, root, traced, plain, sortEq⟩

/-- A run whose second step appends a domain of its catalog and a pipeline that asks for another. -/
def unstockedRun : Run where
  environment := { retrieve := (Catalog.empty.register "stock" ⟨[], 2⟩).retrieve }
  pipeline := ⟨[.domain "stock", .append [.domain "stock", .inline [.domain "sales"]]], rfl⟩
  input := Table.empty

/-- The theorem at a failure that comes from one level below. -/
theorem Run.complete_error_traced_unstockedRun :
    (∀ name, FailsPlainly (unstockedRun.environment.retrieve name)) ∧
      unstockedRun.complete.result =
        .error { index := 1, step := "append",
                 cause := .nested 0 "domain" (.missingDomain "sales") } ∧
      ∃ root, RunAt.Traced unstockedRun.environment
          ⟨unstockedRun.depth, unstockedRun.pipeline.steps, unstockedRun.input⟩
          { index := 1, step := "append", cause := .nested 0 "domain" (.missingDomain "sales") }
            root ∧
        root.isNested = false ∧ ErrorSort.missingDomain = root.sort := by
  have domains := (Catalog.empty.register "stock" ⟨[], 2⟩).failsPlainly_retrieve
  have failed : unstockedRun.complete.result =
      .error { index := 1, step := "append",
               cause := .nested 0 "domain" (.missingDomain "sales") } := by
    rw [Run.complete_eq]
    rfl
  exact ⟨domains, failed, (Run.complete_error_traced unstockedRun domains _ failed).2⟩

end TableFlow
