import TableFlow.Pipeline.Codec
import TableFlow.Proofs.Json.Nesting
import TableFlow.Proofs.Transform.RoundTrip

/-!
# Stored pipelines read back

A pipeline is written with its steps as records that carry their names. The steps of a pipeline in
place are read in the same way as those of the pipeline around it, and a pipeline in place that was
read is valid.

Main statement: `Pipeline.ofText_toText`, which says when the written form of a loaded pipeline is
loaded again, and that nothing is lost then.
-/

namespace TableFlow

open TableFlow.Json

instance : LawfulLabelled JoinKind where
  ofLabel?_label value := by cases value <;> decide

theorem Step.allOfJson?_eq_mapM (inPlace : Bool) (documents : List Json) :
    Step.allOfJson? inPlace documents = documents.mapM (Step.ofJson? inPlace) := by
  apply eq_mapM_of_cons
  · rw [Step.allOfJson?]
  · intro document rest
    rw [Step.allOfJson?]
    cases Step.ofJson? inPlace document <;> cases Step.allOfJson? inPlace rest <;> rfl

theorem Source.allOfJson?_eq_mapM (documents : List Json) :
    Source.allOfJson? documents = documents.mapM Source.ofJson? := by
  apply eq_mapM_of_cons
  · rw [Source.allOfJson?]
  · intro document rest
    rw [Source.allOfJson?]
    cases Source.ofJson? document <;> cases Source.allOfJson? rest <;> rfl

theorem Source.listOfJson?_eq (document : Json) :
    Source.listOfJson? document = list? Source.ofJson? document := by
  cases document with
  | array items => rw [Source.listOfJson?, Source.allOfJson?_eq_mapM, list?]
  | _ => simp [Source.listOfJson?, list?]

theorem Step.allToJson_eq_map (steps : List Step) :
    Step.allToJson steps = steps.map Step.toJson := by
  induction steps with
  | nil => simp [Step.allToJson]
  | cons step rest ih => simp [Step.allToJson, ih]

theorem Source.allToJson_eq_map (sources : List Source) :
    Source.allToJson sources = sources.map Source.toJson := by
  induction sources with
  | nil => simp [Source.allToJson]
  | cons source rest ih => simp [Source.allToJson, ih]

theorem Step.ofJson?_eq (inPlace : Bool) (document : Json) :
    Step.ofJson? inPlace document =
      (document.tagged? "name").bind fun parts =>
        (Step.nameOfTag? inPlace parts.1).bind fun name => Step.ofBody? name parts.2 := by
  rw [Step.ofJson?]
  split <;> rename_i found
  · simp [found]
  · rename_i tag body
    cases named : Step.nameOfTag? inPlace tag <;> simp [found, named]

/-- An object with a name stores the step of that name, whether it stands in place or not. -/
theorem Step.ofJson?_object (inPlace : Bool) (name : String) (fields : List (String × Json))
    (unnamed : "name" ∉ fields.map Prod.fst) :
    Step.ofJson? inPlace (.object (("name", .string name) :: fields)) =
      Step.ofBody? name (.object (("name", .string name) :: fields)) := by
  have none : fields.filter (fun field => field.1 == "name") = [] := by
    rw [List.filter_eq_nil_iff]
    intro field inside same
    exact unnamed (List.mem_map.2 ⟨field, inside, eq_of_beq same⟩)
  simp [Step.ofJson?_eq, tagged?, onlyField?, Step.nameOfTag?, none]

theorem Step.ofBody?_domain (body : Json) :
    Step.ofBody? "domain" body =
      match body.record? ["domain"] with
      | some [field] => (required text? field).map Step.domain
      | _ => none := by
  rewrite [Step.ofBody?, if_pos rfl]
  rfl

theorem Step.ofBody?_append (body : Json) :
    Step.ofBody? "append" body =
      match body.record? ["pipelines"] with
      | some [some sources] => (list? Source.ofJson? sources).map Step.append
      | _ => none := by
  rw [Step.ofBody?, if_neg (by decide), if_pos rfl]
  split <;> rename_i read <;> simp [read, Source.listOfJson?_eq]

theorem Step.ofBody?_join (body : Json) :
    Step.ofBody? "join" body =
      match body.record? ["rightPipeline", "type", "on"] with
      | some [some source, kind, keys] => do
          return .join (← Source.ofJson? source) (← required choice? kind)
            (← required (list? (pair? text?)) keys)
      | _ => none := by
  rw [Step.ofBody?, if_neg (by decide), if_neg (by decide), if_pos rfl]
  split <;> rename_i read <;> simp only [read]
  rename_i source kind keys
  cases Source.ofJson? source <;> cases required (choice? : Json → Option JoinKind) kind <;>
    cases required (list? (pair? text?)) keys <;> rfl

theorem Step.ofBody?_transform {name : String} (body : Json)
    (other : name ∉ ["domain", "append", "join"]) :
    Step.ofBody? name body = (Transform.ofJson? name body).map Step.transform := by
  simp only [List.mem_cons, List.not_mem_nil, or_false, not_or] at other
  obtain ⟨notDomain, notAppend, notJoin⟩ := other
  rw [Step.ofBody?, if_neg notDomain, if_neg notAppend, if_neg notJoin]

theorem Transform.name_not_mem (transform : Transform) :
    transform.name ∉ ["domain", "append", "join"] := by
  cases transform with
  | changeCase letterCase definition => cases letterCase <;> simp [Transform.name]
  | extreme side definition => cases side <;> simp [Transform.name]
  | _ => simp [Transform.name]

theorem Step.stored_domain (inPlace : Bool) (name : String) :
    Stored (Step.ofJson? inPlace) (Step.domain name).toJson (.domain name) := by
  constructor
  · simp [Step.toJson]
  · simp [Step.toJson, Step.ofJson?_object, Step.ofBody?_domain, record?, onlyField?]

theorem Step.stored_append (inPlace : Bool) {sources : List Source}
    (each : Stored (list? Source.ofJson?) (.array (sources.map Source.toJson)) sources) :
    Stored (Step.ofJson? inPlace) (Step.append sources).toJson (.append sources) := by
  constructor
  · simpa [Step.toJson, Source.allToJson_eq_map] using each.writable
  · simp [Step.toJson, Source.allToJson_eq_map, Step.ofJson?_object, Step.ofBody?_append, record?,
      onlyField?, each.decoded]

theorem Step.stored_join (inPlace : Bool) {source : Source} (kind : JoinKind)
    (keys : List (String × String)) (stored : Stored Source.ofJson? source.toJson source) :
    Stored (Step.ofJson? inPlace) (Step.join source kind keys).toJson (.join source kind keys) := by
  constructor
  · simp [Step.toJson, stored.writable]
  · simp [Step.toJson, Step.ofJson?_object, Step.ofBody?_join, record?, onlyField?, stored.decoded]

theorem Step.stored_transform (inPlace : Bool) {transform : Transform}
    (stored : Stored (Transform.ofJson? transform.name)
      (.object (("name", .string transform.name) :: transform.fields)) transform) :
    Stored (Step.ofJson? inPlace) (Step.transform transform).toJson (.transform transform) := by
  constructor
  · simpa only [Step.toJson] using stored.writable
  · have unnamed : "name" ∉ transform.fields.map Prod.fst :=
      (List.nodup_cons.1 (writable_object.1 stored.writable).1).1
    rw [Step.toJson, Step.ofJson?_object _ _ _ unnamed,
      Step.ofBody?_transform _ transform.name_not_mem, stored.decoded]
    rfl

theorem Source.ofJson?_array (items : List Json) :
    Source.ofJson? (.array items) =
      match items.mapM (Step.ofJson? true) with
      | some steps => if (firstInvalid? 0 steps).isNone then some (.inline steps) else none
      | none => none := by
  rewrite [Source.ofJson?, Step.allOfJson?_eq_mapM]
  rfl

theorem Source.stored_inline {steps : List Step} (valid : (firstInvalid? 0 steps).isNone)
    (stored : Stored (list? (Step.ofJson? true)) (.array (steps.map Step.toJson)) steps) :
    Stored Source.ofJson? (Source.inline steps).toJson (.inline steps) := by
  rw [Source.toJson, Step.allToJson_eq_map]
  constructor
  · exact stored.writable
  · have decoded : (steps.map Step.toJson).mapM (Step.ofJson? true) = some steps := stored.decoded
    simp only [Source.ofJson?_array, decoded, valid, if_true]

/-! ## Steps and sources restored -/

mutual

/-- A step that is decoded from a writable document is stored by its written form, whether it stands
in place or not. -/
theorem Step.stored_of_ofJson? {inPlace : Bool} {document : Json} {step : Step}
    (writable : document.Writable) (decoded : Step.ofJson? inPlace document = some step)
    (later : Bool) : Stored (Step.ofJson? later) step.toJson step := by
  rw [Step.ofJson?_eq] at decoded
  simp only [Option.bind_eq_some_iff] at decoded
  obtain ⟨⟨tag, body⟩, tagged, name, _, found⟩ := decoded
  -- The fields may be the whole document, so the measure has to tell the two theorems apart.
  have smaller := sizeOf_of_tagged? tagged
  exact Step.stored_of_ofBody? (writable_of_tagged? writable tagged) found later
termination_by 2 * sizeOf document + 1

theorem Step.stored_of_ofBody? {name : String} {body : Json} {step : Step}
    (writable : body.Writable) (decoded : Step.ofBody? name body = some step) (later : Bool) :
    Stored (Step.ofJson? later) step.toJson step := by
  by_cases other : name ∈ ["domain", "append", "join"]
  · simp only [List.mem_cons, List.not_mem_nil, or_false] at other
    rcases other with rfl | rfl | rfl
    · rw [Step.ofBody?_domain] at decoded
      split at decoded
      · obtain ⟨domain, _, rfl⟩ := Option.map_eq_some_iff.1 decoded
        exact Step.stored_domain later domain
      · contradiction
    · rw [Step.ofBody?_append] at decoded
      split at decoded
      · rename_i document read
        obtain ⟨sources, found, rfl⟩ := Option.map_eq_some_iff.1 decoded
        have smaller : sizeOf document < sizeOf body := sizeOf_of_record? read (by simp)
        exact Step.stored_append later
          (Source.restoresList (writable_of_record? writable read (by simp)) found)
      · contradiction
    · rw [Step.ofBody?_join] at decoded
      split at decoded
      · rename_i document _ _ read
        simp only [Option.bind_eq_bind, Option.bind_eq_some_iff, Option.pure_def,
          Option.some.injEq] at decoded
        obtain ⟨source, found, kind, _, keys, _, rfl⟩ := decoded
        have smaller : sizeOf document < sizeOf body := sizeOf_of_record? read (by simp)
        exact Step.stored_join later kind keys
          (Source.restores (writable_of_record? writable read (by simp)) found)
      · contradiction
  · rw [Step.ofBody?_transform body other] at decoded
    obtain ⟨transform, found, rfl⟩ := Option.map_eq_some_iff.1 decoded
    exact Step.stored_transform later (Transform.restores writable found)
termination_by 2 * sizeOf body

theorem Source.restoresList {document : Json} {sources : List Source}
    (writable : document.Writable) (decoded : list? Source.ofJson? document = some sources) :
    Stored (list? Source.ofJson?) (.array (sources.map Source.toJson)) sources := by
  cases document with
  | array items =>
      apply stored_list
      intro source inside
      obtain ⟨item, member, found⟩ := mem_of_mapM_eq_some decoded source inside
      have smaller := sizeOf_item member
      exact Source.restores (writable.item item member) found
  | _ => cases decoded
termination_by 2 * sizeOf document

theorem Source.restores {document : Json} {source : Source}
    (writable : document.Writable) (decoded : Source.ofJson? document = some source) :
    Stored Source.ofJson? source.toJson source := by
  cases document with
  | string name =>
      rw [Source.ofJson?] at decoded
      cases decoded
      constructor
      · simp [Source.toJson]
      · simp [Source.toJson, Source.ofJson?]
  | array items =>
      rw [Source.ofJson?_array] at decoded
      split at decoded
      · rename_i steps read
        split at decoded
        · rename_i valid
          cases decoded
          apply Source.stored_inline valid
          apply stored_list
          intro step inside
          obtain ⟨item, member, found⟩ := mem_of_mapM_eq_some read step inside
          have smaller := sizeOf_item member
          exact Step.stored_of_ofJson? (writable.item item member) found true
        · contradiction
      · contradiction
  | _ => simp [Source.ofJson?] at decoded
termination_by 2 * sizeOf document

end

/-- The steps of a stored pipeline are stored by their written forms. -/
theorem Pipeline.restoresSteps {document : Json} {steps : List Step} (writable : document.Writable)
    (decoded : list? (Step.ofJson? false) document = some steps) :
    Stored (list? (Step.ofJson? false)) (.array (steps.map Step.toJson)) steps :=
  Restores.list (fun writable decoded => Step.stored_of_ofJson? writable decoded false) writable
    decoded

namespace Pipeline

theorem writable_of_stepsOf {document held : Json} (writable : document.Writable)
    (found : stepsOf document = .ok held) : held.Writable := by
  unfold stepsOf at found
  split at found
  · rename_i fields
    split at found
    · rename_i known
      cases found
      obtain ⟨before, after, rfl, _⟩ := List.lookup_eq_some_iff.1 known
      exact writable.field ("steps", held) (by simp)
    · cases found
  · cases found
    exact writable

theorem ofSteps_steps (pipeline : Pipeline) : ofSteps pipeline.steps = .ok pipeline := by
  unfold ofSteps
  split
  · rename_i error invalid
    rw [pipeline.valid] at invalid
    cases invalid
  · rfl

theorem decodeSteps_eq_ok_iff {document : Json} {steps : List Step} :
    decodeSteps document = .ok steps ↔ list? (Step.ofJson? false) document = some steps := by
  cases document with
  | array items =>
      rw [decodeSteps, Step.allOfJson?_eq_mapM, list?]
      cases items.mapM (Step.ofJson? false) <;> simp
  | _ => simp [decodeSteps, list?]

theorem steps_of_ofSteps {steps : List Step} {pipeline : Pipeline}
    (made : ofSteps steps = .ok pipeline) : pipeline.steps = steps := by
  unfold ofSteps at made
  split at made
  · cases made
  · cases made
    rfl

/-- The steps of a pipeline that was loaded are stored by its written form. -/
theorem stored_of_ofText {text : String} {pipeline : Pipeline}
    (loaded : ofText text = .ok pipeline) :
    Stored (list? (Step.ofJson? false)) (.array (Step.allToJson pipeline.steps))
      pipeline.steps := by
  unfold ofText at loaded
  split at loaded
  · cases loaded
  · rename_i document read
    split at loaded
    · cases loaded
    · rename_i held found
      split at loaded
      · cases loaded
      · rename_i steps decoded
        split at loaded
        · cases loaded
        · rename_i made
          cases loaded
          have writable := writable_of_stepsOf (writable_of_read? read) found
          rw [steps_of_ofSteps made, Step.allToJson_eq_map]
          exact restoresSteps writable (decodeSteps_eq_ok_iff.1 decoded)

/-- What a document that reads back stores is loaded from its text. -/
theorem ofText_of_read? {document : Json} {pipeline : Pipeline}
    (stored : Stored (list? (Step.ofJson? false)) document pipeline.steps)
    {text : String} (read : read? text = some document) : ofText text = .ok pipeline := by
  have array : stepsOf document = .ok document := by
    cases document with
    | object fields => cases stored.decoded
    | _ => rfl
  have steps := decodeSteps_eq_ok_iff.2 stored.decoded
  simp only [ofText, read, stored.writable.lastWins_eq, array, steps, ofSteps_steps]

/-- A pipeline that was loaded is loaded from its written form as long as that text nests no deeper
than 127 levels, and a deeper one is refused. The floats of the pipeline are assumed to read back,
each on its own. -/
theorem ofText_toText {text : String} {pipeline : Pipeline} (loaded : ofText text = .ok pipeline)
    (floats : ∀ value ∈ (Json.array (Step.allToJson pipeline.steps)).floats,
      Number.isFinite value = true → read? (Json.float value).render = some (.float value)) :
    ofText pipeline.toText =
      if nesting pipeline.toText ≤ 127 then .ok pipeline else .error .unreadable := by
  have stored := stored_of_ofText loaded
  have readsBack : ∀ value ∈ (Json.array (Step.allToJson pipeline.steps)).floats,
      ReadsBack value := by
    intro value inside
    have finite := stored.writable.isFinite value inside
    exact readsBack_of_read? finite (floats value inside finite)
  have read := read?_render stored.writable readsBack
  have limit : depthLimit = 127 := rfl
  rw [limit] at read
  rw [toText, nesting_render stored.writable]
  split
  · rename_i shallow
    rw [if_pos shallow] at read
    exact ofText_of_read? stored read
  · rename_i deep
    rw [if_neg deep] at read
    simp only [ofText, read]

/-- A pipeline that reads a domain in place and fills cells with a float. -/
def mixed : Pipeline where
  steps :=
    [ .append [.inline [.domain "sales"]],
      .transform (.fillNull { columns := ["price"], value := .float 1.5 }) ]
  valid := rfl

/-- The pipeline in a form that is not the written one: the step in place is an array that starts
with the position of the step. -/
def mixedText : String :=
  "[\x7b\"name\":\"append\",\"pipelines\":[[[0,\"sales\"]]]\x7d," ++
    "\x7b\"name\":\"fillna\",\"columns\":[\"price\"],\"value\":1.5\x7d]"

/-- The document that the text holds. -/
def mixedDocument : Json :=
  .array
    [ .object
        [ ("name", .string "append"),
          ("pipelines", .array [.array [.array [.integer 0, .string "sales"]]]) ],
      .object
        [("name", .string "fillna"), ("columns", .array [.string "price"]), ("value", .float 1.5)] ]

set_option maxRecDepth 8000 in
theorem read?_mixedText : read? mixedText = some mixedDocument := by
  with_unfolding_all rfl

theorem decodeSteps_mixedDocument : decodeSteps mixedDocument = .ok mixed.steps := by
  have inline : Source.ofJson? (.array [.array [.integer 0, .string "sales"]]) =
      some (.inline [.domain "sales"]) := by
    simp [Source.ofJson?_array, Step.ofJson?_eq, tagged?, Step.nameOfTag?, Step.names,
      Step.ofBody?_domain, record?]
    rfl
  have append : Step.ofJson? false (.object
      [ ("name", .string "append"),
        ("pipelines", .array [.array [.array [.integer 0, .string "sales"]]]) ]) =
      some (.append [.inline [.domain "sales"]]) := by
    simp [Step.ofJson?_object, Step.ofBody?_append, record?, onlyField?, list?, inline]
  have fill : Step.ofJson? false (.object
      [("name", .string "fillna"), ("columns", .array [.string "price"]), ("value", .float 1.5)]) =
      some (.transform (.fillNull { columns := ["price"], value := .float 1.5 })) := by
    have named : ∀ body, Transform.ofJson? "fillna" body = (FillNull.ofJson? body).map .fillNull :=
      fun _ => rfl
    simp [Step.ofJson?_object, Step.ofBody?_transform, named, FillNull.ofJson?, Cell.ofJson?,
      record?, onlyField?, texts?, list?]
  rw [decodeSteps_eq_ok_iff]
  simp [mixedDocument, list?, append, fill, mixed]

theorem ofText_mixedText : ofText mixedText = .ok mixed := by
  have writable : mixedDocument.Writable := by
    have zero : (Json.integer 0).Writable := .integer (by decide) (by decide)
    have float : (Json.float 1.5).Writable := .float (by decide +kernel)
    simp [mixedDocument, writable_array, zero, float]
  have decoded := decodeSteps_eq_ok_iff.1 decodeSteps_mixedDocument
  exact ofText_of_read? ⟨writable, decoded⟩ read?_mixedText

/-- The one float of the mixed steps reads back, so they are restored from their text. -/
theorem ofText_toText_mixed :
    ofText mixedText = .ok mixed ∧ read? (Json.float 1.5).render = some (.float 1.5) ∧
      ofText mixed.toText = .ok mixed := by
  have loaded := ofText_mixedText
  have readsBack : read? (Json.float 1.5).render = some (.float 1.5) := by
    with_unfolding_all rfl
  have floats : (Json.array (Step.allToJson mixed.steps)).floats = [1.5] := rfl
  have again := ofText_toText loaded (by
    rw [floats, List.forall_mem_singleton]
    exact fun _ => readsBack)
  have shallow : nesting mixed.toText ≤ 127 := by
    rw [toText, nesting_render (stored_of_ofText loaded).writable]
    decide
  rw [if_pos shallow] at again
  exact ⟨loaded, readsBack, again⟩

end Pipeline

end TableFlow
