import TableFlow.Pipeline.Combine
import TableFlow.Transform.Basic

/-!
# Steps and pipelines

A step either brings in other tables or transforms the one it is given. Other tables come from a
source: a domain, which is a table known by name, or a pipeline written in place. Steps therefore
contain pipelines, and pipelines are lists of steps.
-/

namespace TableFlow

mutual

/-- Where another table comes from. -/
inductive Source where
  | domain (name : String)
  | inline (steps : List Step)

/-- A step of a pipeline. -/
inductive Step where
  | domain (name : String)
  | append (sources : List Source)
  | join (source : Source) (kind : JoinKind) (keys : List (String × String))
  | transform (operation : Transform)

end

/-- Demand a name of a domain; a pipeline in place has been checked on its own. -/
def Source.validate : Source → Except StepError Unit
  | .domain name => requireName "domain" name
  | .inline _ => .ok ()

namespace Step

def name : Step → String
  | .domain _ => "domain"
  | .append _ => "append"
  | .join _ _ _ => "join"
  | .transform operation => operation.name

/-- The demands on a step that need no table. -/
def validate : Step → Except StepError Unit
  | .domain name => requireName "domain" name
  | .append sources =>
      if sources.isEmpty then .error (.invalid .noSource) else checkAll Source.validate sources
  | .join source _ keys =>
      checkThen source.validate fun () =>
        if keys.isEmpty then .error (.invalid .noKey)
        else
          checkAll (fun (left, right) => checkThen (requireName "on" left) fun () =>
            requireName "on" right) keys
  | .transform operation => operation.validate

end Step

mutual

/-- Whether two steps are equal. -/
def Step.same : Step → Step → Bool
  | .domain left, .domain right => left == right
  | .append left, .append right => Source.sameAll left right
  | .join leftSource leftKind leftKeys, .join rightSource rightKind rightKeys =>
      leftSource.same rightSource && leftKind == rightKind && leftKeys == rightKeys
  | .transform left, .transform right => left == right
  | _, _ => false

/-- Whether two sources are equal. -/
def Source.same : Source → Source → Bool
  | .domain left, .domain right => left == right
  | .inline left, .inline right => Step.sameAll left right
  | _, _ => false

/-- Whether two lists of sources are equal. -/
def Source.sameAll : List Source → List Source → Bool
  | [], [] => true
  | left :: lefts, right :: rights => left.same right && Source.sameAll lefts rights
  | _, _ => false

/-- Whether two lists of steps are equal. -/
def Step.sameAll : List Step → List Step → Bool
  | [], [] => true
  | left :: lefts, right :: rights => left.same right && Step.sameAll lefts rights
  | _, _ => false

end

instance : BEq Step := ⟨Step.same⟩

/-- The first invalid step of a list, counted from an index, with its error. -/
def firstInvalid? (index : Nat) : List Step → Option RunError
  | [] => none
  | step :: rest =>
      match step.validate with
      | .error cause => some { index, step := step.name, cause }
      | .ok () => firstInvalid? (index + 1) rest

/-- A list of valid steps. -/
structure Pipeline where
  steps : List Step
  valid : firstInvalid? 0 steps = none

/-- The pipeline of some steps; the first invalid one is reported. -/
def Pipeline.ofSteps (steps : List Step) : Except RunError Pipeline :=
  match valid : firstInvalid? 0 steps with
  | some error => .error error
  | none => .ok { steps, valid }

end TableFlow
