import TableFlow.Json.Reader
import TableFlow.Json.Writer
import TableFlow.Pipeline.Step

/-!
# Stored pipelines

A stored pipeline is an array of steps, or an object with such an array in its field `steps`. A step
is a record tagged with its name. A source is a text, which names a domain, or an array of steps; a
pipeline in place has to be valid to be read at all, and its steps may also be tagged with their
positions in the list of all steps.
-/

namespace TableFlow

open TableFlow.Json

/-- The names of all steps, in the order of their positions. -/
def Step.names : List String :=
  [ "domain", "append", "join", "rename", "delete", "select", "duplicate", "convert",
    "concatenate", "fillna", "filter", "formula", "text", "lowercase", "uppercase", "replace",
    "aggregate", "rank", "duration", "ifthenelse", "argmax", "argmin", "cumsum", "percentage",
    "fromdate", "dateextract", "evolution", "pivot", "rollup", "statistics" ]

/-- The name that a tag gives. Only the step of a pipeline in place may give its position. -/
def Step.nameOfTag? (inPlace : Bool) : Json → Option String
  | .string name => some name
  | .integer (.ofNat position) => if inPlace then Step.names[position]? else none
  | _ => none

mutual

/-- The step that a document stores, on its own or in a pipeline in place. -/
def Step.ofJson? (inPlace : Bool) (document : Json) : Option Step :=
  match found : document.tagged? "name" with
  | none => none
  | some (tag, body) =>
      have := sizeOf_of_tagged? found
      match Step.nameOfTag? inPlace tag with
      | some name => Step.ofBody? name body
      | none => none
termination_by 2 * sizeOf document + 1

/-- The step of a name whose fields a document stores. -/
def Step.ofBody? (name : String) (body : Json) : Option Step :=
  if name = "domain" then
    match body.record? ["domain"] with
    | some [domain] => (required text? domain).map Step.domain
    | _ => none
  else if name = "append" then
    match read : body.record? ["pipelines"] with
    | some [some sources] =>
        have : sizeOf sources < sizeOf body := sizeOf_of_record? read (by simp)
        (Source.listOfJson? sources).map Step.append
    | _ => none
  else if name = "join" then
    match read : body.record? ["rightPipeline", "type", "on"] with
    | some [some source, kind, keys] =>
        have : sizeOf source < sizeOf body := sizeOf_of_record? read (by simp)
        match Source.ofJson? source, required choice? kind,
            required (list? (pair? text?)) keys with
        | some source, some kind, some keys => some (.join source kind keys)
        | _, _, _ => none
    | _ => none
  else (Transform.ofJson? name body).map Step.transform
termination_by 2 * sizeOf body

/-- The sources that an array stores. -/
def Source.listOfJson? (document : Json) : Option (List Source) :=
  match document with
  | .array items => Source.allOfJson? items
  | _ => none
termination_by 2 * sizeOf document + 1

/-- The sources that some documents store. -/
def Source.allOfJson? (documents : List Json) : Option (List Source) :=
  match documents with
  | [] => some []
  | document :: rest =>
      match Source.ofJson? document, Source.allOfJson? rest with
      | some source, some sources => some (source :: sources)
      | _, _ => none
termination_by 2 * sizeOf documents

/-- The source that a document stores. -/
def Source.ofJson? (document : Json) : Option Source :=
  match document with
  | .string name => some (.domain name)
  | .array items =>
      match Step.allOfJson? true items with
      | some steps => if (firstInvalid? 0 steps).isNone then some (.inline steps) else none
      | none => none
  | _ => none
termination_by 2 * sizeOf document + 1

/-- The steps that some documents store. -/
def Step.allOfJson? (inPlace : Bool) (documents : List Json) : Option (List Step) :=
  match documents with
  | [] => some []
  | document :: rest =>
      match Step.ofJson? inPlace document, Step.allOfJson? inPlace rest with
      | some step, some steps => some (step :: steps)
      | _, _ => none
termination_by 2 * sizeOf documents

end

mutual

/-- A step as a document. -/
def Step.toJson : Step → Json
  | .domain name => .object [("name", .string "domain"), ("domain", .string name)]
  | .append sources =>
      .object [("name", .string "append"), ("pipelines", .array (Source.allToJson sources))]
  | .join source kind keys =>
      .object
        [ ("name", .string "join"), ("rightPipeline", source.toJson), ("type", ofChoice kind),
          ("on", .array (keys.map ofPair)) ]
  | .transform operation => .object (("name", .string operation.name) :: operation.fields)

/-- A source as a document. -/
def Source.toJson : Source → Json
  | .domain name => .string name
  | .inline steps => .array (Step.allToJson steps)

/-- Sources as documents. -/
def Source.allToJson : List Source → List Json
  | [] => []
  | source :: rest => source.toJson :: Source.allToJson rest

/-- Steps as documents. -/
def Step.allToJson : List Step → List Json
  | [] => []
  | step :: rest => step.toJson :: Step.allToJson rest

end

/-- Why a text is not a stored pipeline. -/
inductive LoadError where
  | unreadable
  | noSteps
  | badSteps
  | invalid (error : RunError)

/-- The wording of an error, for a text that does not store steps. -/
def LoadError.message : LoadError → String
  | .unreadable => "pipeline is not valid JSON"
  | .noSteps => "pipeline object has no \"steps\" field"
  | .badSteps => "failed to decode pipeline steps"
  | .invalid error => error.message

namespace Pipeline

/-- The document that holds the steps: the field `steps` of an object, or the document itself. -/
def stepsOf : Json → Except LoadError Json
  | .object fields =>
      match fields.lookup "steps" with
      | some document => .ok document
      | none => .error .noSteps
  | document => .ok document

/-- The steps that an array stores. -/
def decodeSteps : Json → Except LoadError (List Step)
  | .array items =>
      match Step.allOfJson? false items with
      | some steps => .ok steps
      | none => .error .badSteps
  | _ => .error .badSteps

/-- The pipeline that a text stores. A repeated name in an object counts with its last value. -/
def ofText (text : String) : Except LoadError Pipeline :=
  match Json.read? text with
  | none => .error .unreadable
  | some document =>
      match stepsOf document.lastWins with
      | .error error => .error error
      | .ok document =>
          match decodeSteps document with
          | .error error => .error error
          | .ok steps =>
              match ofSteps steps with
              | .error error => .error (.invalid error)
              | .ok pipeline => .ok pipeline

/-- The text that stores a pipeline. -/
def toText (pipeline : Pipeline) : String :=
  (Json.array (Step.allToJson pipeline.steps)).render

/-- Whether two pipelines have equal steps. -/
def same (left right : Pipeline) : Bool :=
  Step.sameAll left.steps right.steps

end Pipeline

end TableFlow
