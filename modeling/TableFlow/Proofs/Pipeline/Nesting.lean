import TableFlow.Proofs.Pipeline.Progress

/-!
# The nesting limit

Pipelines nest statically: how deep is plain from the steps, whatever tables they meet.  A run that
succeeds has executed every step and resolved every source, so it has been as deep as the pipeline
nests, and the limit allowed that.  Conversely a limit that allows the whole depth is never the
reason for anything, and all such limits give the same run, reports included.

Main statement: `Pipeline.runUnder_limit`.
-/

namespace TableFlow

mutual

/-- How deep the pipelines in place nest within a step. -/
def Step.nestingDepth : Step → Nat
  | .domain _ => 0
  | .append sources => Source.greatestDepth sources
  | .join source _ _ => source.nestingDepth
  | .transform _ => 0

/-- How deep a source nests: a pipeline in place is one level of its own. -/
def Source.nestingDepth : Source → Nat
  | .domain _ => 0
  | .inline steps => Step.greatestDepth steps + 1

/-- The greatest depth of some sources. -/
def Source.greatestDepth : List Source → Nat
  | [] => 0
  | source :: rest => max source.nestingDepth (Source.greatestDepth rest)

def Step.greatestDepth : List Step → Nat
  | [] => 0
  | step :: rest => max step.nestingDepth (Step.greatestDepth rest)

end

/-- How deep the pipelines in place nest within a pipeline. -/
def Pipeline.nestingDepth (pipeline : Pipeline) : Nat :=
  Step.greatestDepth pipeline.steps

/-- An environment with a limit on nesting. -/
def Environment.limited (environment : Environment) (limit : Nat) : Environment :=
  { environment with nesting := .upTo limit }

theorem Environment.refusal?_limited_eq_none_iff {environment : Environment} {limit depth : Nat} :
    (environment.limited limit).refusal? depth = none ↔ depth + 1 ≤ limit := by
  simp only [refusal?, limited]
  split
  · rename_i tooDeep
    simp only [reduceCtorEq, false_iff]
    omega
  · rename_i allowed
    simp only [true_iff]
    omega

variable {environment : Environment} {limit : Nat}

mutual

theorem Step.depth_le_of_execute (depth : Nat) (allowed : depth ≤ limit) :
    (step : Step) → (table : Table) → {output : Table} →
    (step.execute (environment.limited limit) depth table).result = .ok output →
    depth + step.nestingDepth ≤ limit
  | .domain _, _, _, _ => allowed
  | .append sources, table, output, executed => by
      simp only [Step.execute] at executed
      split at executed
      · cases executed
      · rename_i tables resolved
        exact Source.depth_le_of_resolveAll depth allowed sources resolved
  | .join source kind keys, table, output, executed => by
      simp only [Step.execute] at executed
      split at executed
      · cases executed
      · rename_i right resolved
        exact Source.depth_le_of_resolve depth allowed source resolved
  | .transform _, _, _, _ => allowed

theorem Source.depth_le_of_resolve (depth : Nat) (allowed : depth ≤ limit) :
    (source : Source) → {output : Table} →
    (source.resolve (environment.limited limit) depth).result = .ok output →
    depth + source.nestingDepth ≤ limit
  | .domain _, _, _ => allowed
  | .inline steps, output, resolved => by
      simp only [Source.resolve] at resolved
      split at resolved
      · cases resolved
      · rename_i notRefused
        split at resolved
        · cases resolved
        · rename_i table ran
          have deeper := Environment.refusal?_limited_eq_none_iff.1 notRefused
          have within := Step.depth_le_of_runFrom (depth + 1) deeper steps 0 Table.empty ran
          rw [Source.nestingDepth]
          omega

theorem Source.depth_le_of_resolveAll (depth : Nat) (allowed : depth ≤ limit) :
    (sources : List Source) → {tables : List Table} →
    (Source.resolveAll (environment.limited limit) depth sources).result = .ok tables →
    depth + Source.greatestDepth sources ≤ limit
  | [], _, _ => allowed
  | source :: rest, tables, resolved => by
      simp only [Source.resolveAll] at resolved
      split at resolved
      · cases resolved
      · rename_i table first
        simp only at resolved
        split at resolved
        · cases resolved
        · rename_i others later
          have here := Source.depth_le_of_resolve depth allowed source first
          have there := Source.depth_le_of_resolveAll depth allowed rest later
          rw [Source.greatestDepth]
          omega

theorem Step.depth_le_of_runFrom (depth : Nat) (allowed : depth ≤ limit) :
    (steps : List Step) → (index : Nat) → (table : Table) → {output : Table} →
    (Step.runFrom (environment.limited limit) depth index steps table).result = .ok output →
    depth + Step.greatestDepth steps ≤ limit
  | [], _, _, _, _ => allowed
  | step :: rest, index, table, output, ran => by
      simp only [Step.runFrom] at ran
      split at ran
      · cases ran
      · rename_i next executed
        have here := Step.depth_le_of_execute depth allowed step table executed
        have there := Step.depth_le_of_runFrom depth allowed rest (index + 1) next ran
        rw [Step.greatestDepth]
        omega

end

variable {other : Nat}

mutual

theorem Step.execute_limited_eq (depth : Nat) :
    (step : Step) → depth + step.nestingDepth ≤ limit → depth + step.nestingDepth ≤ other →
    (table : Table) →
    step.execute (environment.limited limit) depth table =
      step.execute (environment.limited other) depth table
  | .domain _, _, _, _ => rfl
  | .append sources, within, withinOther, table => by
      simp only [Step.execute]
      rw [Source.resolveAll_limited_eq depth sources within withinOther]
  | .join source kind keys, within, withinOther, table => by
      simp only [Step.execute]
      rw [Source.resolve_limited_eq depth source within withinOther]
  | .transform _, _, _, _ => rfl

theorem Source.resolve_limited_eq (depth : Nat) :
    (source : Source) → depth + source.nestingDepth ≤ limit →
    depth + source.nestingDepth ≤ other →
    source.resolve (environment.limited limit) depth =
      source.resolve (environment.limited other) depth
  | .domain _, _, _ => rfl
  | .inline steps, within, withinOther => by
      rw [Source.nestingDepth] at within withinOther
      have allowed : (environment.limited limit).refusal? depth = none :=
        Environment.refusal?_limited_eq_none_iff.2 (by omega)
      have allowedOther : (environment.limited other).refusal? depth = none :=
        Environment.refusal?_limited_eq_none_iff.2 (by omega)
      simp only [Source.resolve, allowed, allowedOther]
      rw [Step.runFrom_limited_eq (depth + 1) steps (by omega) (by omega) 0 Table.empty]

theorem Source.resolveAll_limited_eq (depth : Nat) :
    (sources : List Source) → depth + Source.greatestDepth sources ≤ limit →
    depth + Source.greatestDepth sources ≤ other →
    Source.resolveAll (environment.limited limit) depth sources =
      Source.resolveAll (environment.limited other) depth sources
  | [], _, _ => rfl
  | source :: rest, within, withinOther => by
      rw [Source.greatestDepth] at within withinOther
      simp only [Source.resolveAll]
      rw [Source.resolve_limited_eq depth source (by omega) (by omega),
        Source.resolveAll_limited_eq depth rest (by omega) (by omega)]

theorem Step.runFrom_limited_eq (depth : Nat) :
    (steps : List Step) → depth + Step.greatestDepth steps ≤ limit →
    depth + Step.greatestDepth steps ≤ other → (index : Nat) → (table : Table) →
    Step.runFrom (environment.limited limit) depth index steps table =
      Step.runFrom (environment.limited other) depth index steps table
  | [], _, _, _, _ => rfl
  | step :: rest, within, withinOther, index, table => by
      rw [Step.greatestDepth] at within withinOther
      simp only [Step.runFrom]
      rw [Step.execute_limited_eq depth step (by omega) (by omega) table]
      split
      · rfl
      · rename_i next executed
        rw [Step.runFrom_limited_eq depth rest (by omega) (by omega) (index + 1) next]
        rfl

end

/-- The run of a pipeline under a configuration with its nesting limit replaced. -/
def Pipeline.runUnder (pipeline : Pipeline) (retrieve : String → Except StepError Table)
    (config : Config) (input : Table) (limit : Nat) : Logged (Except RunError Table) :=
  Run.complete
    { environment := .ofConfig retrieve { config with nestingLimit := limit }, pipeline, input }

namespace Pipeline

variable {pipeline : Pipeline} {retrieve : String → Except StepError Table} {config : Config}
  {input : Table}

theorem runUnder_eq_runFrom (limit : Nat) :
    pipeline.runUnder retrieve config input limit =
      let ran := Step.runFrom ((Environment.ofConfig retrieve config).limited limit) 0 0
        pipeline.steps input
      { events := .started pipeline.steps.length 0 :: ran.events ++ [closing 0 ran.result]
        result := ran.result } :=
  Run.complete_eq _

theorem nestingDepth_le_of_runUnder {table : Table}
    (ran : (pipeline.runUnder retrieve config input limit).result = .ok table) :
    pipeline.nestingDepth ≤ limit := by
  rw [runUnder_eq_runFrom] at ran
  have within := Step.depth_le_of_runFrom 0 (Nat.zero_le limit) pipeline.steps 0 input ran
  rwa [Nat.zero_add] at within

theorem runUnder_eq_runUnder (within : pipeline.nestingDepth ≤ limit)
    (withinOther : pipeline.nestingDepth ≤ other) :
    pipeline.runUnder retrieve config input limit =
      pipeline.runUnder retrieve config input other := by
  rw [nestingDepth, ← Nat.zero_add (Step.greatestDepth _)] at within withinOther
  rw [runUnder_eq_runFrom, runUnder_eq_runFrom,
    Step.runFrom_limited_eq 0 pipeline.steps within withinOther 0 input]

/-- A limit is kept exactly by what nests no deeper.  A run that succeeds has a pipeline within its
limit; all limits that the pipeline is within give one and the same run, be its result a table or an
error; and so a success under a limit is the same success under every greater one. -/
theorem runUnder_limit (pipeline : Pipeline) (retrieve : String → Except StepError Table)
    (config : Config) (input : Table) :
    (∀ limit table, (pipeline.runUnder retrieve config input limit).result = .ok table →
        pipeline.nestingDepth ≤ limit) ∧
      (∀ limit other, pipeline.nestingDepth ≤ limit → pipeline.nestingDepth ≤ other →
        pipeline.runUnder retrieve config input limit =
          pipeline.runUnder retrieve config input other) ∧
      (∀ limit other table, limit ≤ other →
        (pipeline.runUnder retrieve config input limit).result = .ok table →
        (pipeline.runUnder retrieve config input other).result = .ok table) := by
  refine ⟨?_, ?_, ?_⟩
  · intro limit table ran
    exact nestingDepth_le_of_runUnder ran
  · intro limit other within withinOther
    exact runUnder_eq_runUnder within withinOther
  · intro limit other table le ran
    have within := nestingDepth_le_of_runUnder ran
    rw [← runUnder_eq_runUnder within (Nat.le_trans within le)]
    exact ran

/-- A pipeline with a pipeline in place that has another one in place. -/
def twiceNested : Pipeline :=
  ⟨[.append [.inline [.append [.domain "stock", .inline [.domain "sales"]]]]], rfl⟩

/-- The theorem at a pipeline of depth two, under limits that suffice. -/
theorem runUnder_limit_twiceNested :
    let table : Table := ⟨[⟨"item", [.text "stock", .text "sales"]⟩], 2⟩
    let run := twiceNested.runUnder (fun name => .ok ⟨[⟨"item", [.text name]⟩], 1⟩) {} Table.empty
    (run 2).result = .ok table ∧ twiceNested.nestingDepth ≤ 2 ∧ run 3 = run 2 ∧
      (run 5).result = .ok table := by
  intro table run
  have ran : (run 2).result = .ok table := by
    simp only [run, runUnder_eq_runFrom]
    rfl
  obtain ⟨kept, same, greater⟩ := runUnder_limit twiceNested
    (fun name => .ok ⟨[⟨"item", [.text name]⟩], 1⟩) {} Table.empty
  exact ⟨ran, kept 2 table ran, same 3 2 (by decide) (by decide), greater 2 5 table (by decide) ran⟩

end Pipeline

end TableFlow
