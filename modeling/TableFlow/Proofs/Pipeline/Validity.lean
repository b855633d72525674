import TableFlow.Proofs.Pipeline.RoundTrip

/-!
# What is loaded is valid at every depth

The check of a step looks at the names of its domains and passes over its pipelines in place.  They
need no check there because none is read without one: a document gives a pipeline in place only if
its steps are valid.  So the steps of a loaded pipeline are valid, those of the pipelines in place
among their sources are, and so on.  A pipeline at the top that is not valid is refused for its
first invalid step, after all of its steps have been read.

Main statement: `Pipeline.ofText_validates`.
-/

namespace TableFlow

open TableFlow.Json

/-- The sources from which a step brings in tables. -/
def Step.sources : Step → List Source
  | .domain _ => []
  | .append sources => sources
  | .join source _ _ => [source]
  | .transform _ => []

/-- A step stands in a list of steps, at some depth: it is one of them, or it stands in a pipeline
in place that is a source of one of them. -/
inductive Step.StandsIn (step : Step) : List Step → Prop where
  | here {steps : List Step} (member : step ∈ steps) : StandsIn step steps
  | inPlace {steps inner : List Step} {outer : Step} (member : outer ∈ steps)
      (source : .inline inner ∈ outer.sources) (stands : StandsIn step inner) :
      StandsIn step steps

theorem firstInvalid?_eq_none_iff {index : Nat} {steps : List Step} :
    firstInvalid? index steps = none ↔ ∀ step ∈ steps, step.validate = .ok () := by
  induction steps generalizing index with
  | nil => simp [firstInvalid?]
  | cons step rest ih =>
      rw [firstInvalid?, List.forall_mem_cons]
      cases checked : step.validate with
      | error cause => simp
      | ok done => simp [ih]

/-- The error of some steps belongs to the first one that is not valid, and counts from the given
index. -/
theorem firstInvalid?_eq_some_iff {start : Nat} {steps : List Step} {error : RunError} :
    firstInvalid? start steps = some error ↔
      ∃ count step, error.index = start + count ∧ steps[count]? = some step ∧
        error.step = step.name ∧ step.validate = .error error.cause ∧
        ∀ index < count, ∃ earlier, steps[index]? = some earlier ∧ earlier.validate = .ok () := by
  induction steps generalizing start with
  | nil => simp [firstInvalid?]
  | cons first rest ih =>
      rw [firstInvalid?]
      cases checked : first.validate with
      | error cause =>
          simp only [Option.some.injEq]
          constructor
          · rintro rfl
            exact ⟨0, first, rfl, rfl, rfl, checked, by simp⟩
          · rintro ⟨count, step, indexEq, found, nameEq, failed, before⟩
            cases count with
            | zero =>
                cases found
                rw [checked, Except.error.injEq] at failed
                rw [failed, ← nameEq, ← Nat.add_zero start, ← indexEq]
            | succ count =>
                obtain ⟨earlier, foundFirst, valid⟩ := before 0 (Nat.zero_lt_succ count)
                cases foundFirst
                rw [checked] at valid
                cases valid
      | ok done =>
          simp only [ih]
          constructor
          · rintro ⟨count, step, indexEq, found, nameEq, failed, before⟩
            refine ⟨count + 1, step, ?_, found, nameEq, failed, ?_⟩
            · rw [indexEq, Nat.add_right_comm, Nat.add_assoc]
            · intro index bound
              cases index with
              | zero => exact ⟨first, rfl, checked⟩
              | succ index => exact before index (Nat.lt_of_succ_lt_succ bound)
          · rintro ⟨count, step, indexEq, found, nameEq, failed, before⟩
            cases count with
            | zero =>
                cases found
                rw [checked] at failed
                cases failed
            | succ count =>
                refine ⟨count, step, ?_, found, nameEq, failed, ?_⟩
                · rw [indexEq, Nat.add_right_comm, Nat.add_assoc]
                · intro index bound
                  exact before (index + 1) (Nat.succ_lt_succ bound)

/-- The sources of a step that was read were read as sources. -/
theorem Step.exists_of_mem_sources {inPlace : Bool} {document : Json} {step : Step}
    (decoded : Step.ofJson? inPlace document = some step) {source : Source}
    (member : source ∈ step.sources) : ∃ part, Source.ofJson? part = some source := by
  rw [Step.ofJson?_eq] at decoded
  simp only [Option.bind_eq_some_iff] at decoded
  obtain ⟨⟨tag, body⟩, -, name, -, found⟩ := decoded
  by_cases other : name ∈ ["domain", "append", "join"]
  · simp only [List.mem_cons, List.not_mem_nil, or_false] at other
    rcases other with rfl | rfl | rfl
    · rw [Step.ofBody?_domain] at found
      split at found
      · obtain ⟨domain, -, rfl⟩ := Option.map_eq_some_iff.1 found
        cases member
      · cases found
    · rw [Step.ofBody?_append] at found
      split at found
      · obtain ⟨sources, listed, rfl⟩ := Option.map_eq_some_iff.1 found
        rename_i held read
        cases held with
        | array items =>
            obtain ⟨item, -, decodedItem⟩ := mem_of_mapM_eq_some listed source member
            exact ⟨item, decodedItem⟩
        | _ => cases listed
      · cases found
    · rw [Step.ofBody?_join] at found
      split at found
      · rename_i held kind keys read
        simp only [Option.bind_eq_bind, Option.bind_eq_some_iff, Option.pure_def,
          Option.some.injEq] at found
        obtain ⟨right, decodedRight, _, _, _, _, rfl⟩ := found
        have same : source = right := List.mem_singleton.1 member
        exact ⟨held, same ▸ decodedRight⟩
      · cases found
  · rw [Step.ofBody?_transform body other] at found
    obtain ⟨transform, -, rfl⟩ := Option.map_eq_some_iff.1 found
    cases member

/-- A pipeline in place that was read has valid steps, which were read one by one. -/
theorem Source.exists_of_ofJson?_inline {document : Json} {steps : List Step}
    (decoded : Source.ofJson? document = some (.inline steps)) :
    ∃ items : List Json, items.mapM (Step.ofJson? true) = some steps ∧
      firstInvalid? 0 steps = none := by
  cases document with
  | array items =>
      rw [Source.ofJson?_array] at decoded
      split at decoded
      · rename_i found read
        split at decoded
        · rename_i valid
          cases decoded
          exact ⟨items, read, Option.isNone_iff_eq_none.1 valid⟩
        · cases decoded
      · cases decoded
  | _ => simp [Source.ofJson?] at decoded

/-- Steps that were read, and of which none is invalid, are valid at every depth.  On the way down
each pipeline in place brings the same two facts along. -/
theorem Step.StandsIn.validate_eq_ok {step : Step} {steps : List Step}
    (stands : step.StandsIn steps) {inPlace : Bool} {items : List Json}
    (decoded : items.mapM (Step.ofJson? inPlace) = some steps)
    (valid : firstInvalid? 0 steps = none) : step.validate = .ok () := by
  induction stands generalizing inPlace items with
  | here member => exact firstInvalid?_eq_none_iff.1 valid step member
  | inPlace member source stands ih =>
      obtain ⟨item, -, found⟩ := mem_of_mapM_eq_some decoded _ member
      obtain ⟨part, decodedPart⟩ := Step.exists_of_mem_sources found source
      obtain ⟨innerItems, innerDecoded, innerValid⟩ := Source.exists_of_ofJson?_inline decodedPart
      exact ih innerDecoded innerValid

namespace Pipeline

/-- The steps that a text stores, valid or not. -/
def stepsOfText (text : String) : Except LoadError (List Step) :=
  match read? text with
  | none => .error .unreadable
  | some document => (stepsOf document.lastWins).bind decodeSteps

variable {text : String} {error : RunError}

/-- Loading reads the steps first and checks them then. -/
theorem ofText_eq_bind (text : String) :
    ofText text = (stepsOfText text).bind fun steps => (ofSteps steps).mapError .invalid := by
  rw [ofText, stepsOfText]
  cases read? text with
  | none => rfl
  | some document =>
      simp only
      cases stepsOf document.lastWins with
      | error refused => rfl
      | ok held =>
          simp only [Except.bind]
          cases decodeSteps held with
          | error refused => rfl
          | ok steps =>
              simp only
              cases ofSteps steps <;> rfl

theorem stepsOf_ne_invalid {document : Json} : stepsOf document ≠ .error (.invalid error) := by
  unfold stepsOf
  split
  · split <;> simp
  · simp

theorem decodeSteps_ne_invalid {document : Json} :
    decodeSteps document ≠ .error (.invalid error) := by
  unfold decodeSteps
  split
  · split <;> simp
  · simp

/-- A text whose steps cannot be read is not refused for an invalid step. -/
theorem stepsOfText_ne_invalid : stepsOfText text ≠ .error (.invalid error) := by
  intro failed
  unfold stepsOfText at failed
  split at failed
  · cases failed
  · rename_i document read
    cases found : stepsOf document.lastWins with
    | error refused =>
        rw [found] at failed
        cases failed
        exact stepsOf_ne_invalid found
    | ok held =>
        rw [found] at failed
        exact decodeSteps_ne_invalid failed

theorem ofSteps_eq_error_iff {steps : List Step} :
    ofSteps steps = .error error ↔ firstInvalid? 0 steps = some error := by
  unfold ofSteps
  split
  · rename_i other invalid
    rw [invalid, Except.error.injEq, Option.some.injEq]
  · rename_i valid
    simp [valid]

/-- A pipeline is loaded exactly from the texts that store its steps. -/
theorem ofText_eq_ok_iff {pipeline : Pipeline} :
    ofText text = .ok pipeline ↔ stepsOfText text = .ok pipeline.steps := by
  rw [ofText_eq_bind]
  cases stepsOfText text with
  | error refused => simp [Except.bind]
  | ok steps =>
      simp only [Except.bind, Except.ok.injEq]
      constructor
      · intro made
        cases checked : ofSteps steps with
        | error invalid =>
            rw [checked] at made
            cases made
        | ok other =>
            rw [checked] at made
            cases made
            exact (steps_of_ofSteps checked).symm
      · rintro rfl
        rw [ofSteps_steps]
        rfl

theorem ofText_eq_invalid_iff :
    ofText text = .error (.invalid error) ↔
      ∃ steps, stepsOfText text = .ok steps ∧ firstInvalid? 0 steps = some error := by
  rw [ofText_eq_bind]
  cases read : stepsOfText text with
  | error refused =>
      have otherwise : refused ≠ .invalid error := by
        rintro rfl
        exact stepsOfText_ne_invalid read
      simp [Except.bind, otherwise]
  | ok steps =>
      simp only [Except.bind, Except.ok.injEq, exists_eq_left', ← ofSteps_eq_error_iff]
      cases ofSteps steps <;> simp [Except.mapError]

/-- The steps that a text stores are read one by one. -/
theorem exists_items_of_stepsOfText {steps : List Step} (stored : stepsOfText text = .ok steps) :
    ∃ items : List Json, items.mapM (Step.ofJson? false) = some steps := by
  unfold stepsOfText at stored
  split at stored
  · cases stored
  · rename_i document read
    cases found : stepsOf document.lastWins with
    | error refused =>
        rw [found] at stored
        cases stored
    | ok held =>
        rw [found] at stored
        have listed := decodeSteps_eq_ok_iff.1 stored
        cases held with
        | array items => exact ⟨items, listed⟩
        | _ => cases listed

/-- What is loaded is valid throughout: a pipeline that a text gives has the steps that the text
stores, and every step that stands in it, at any depth, is valid.  A text is refused for an invalid
step exactly if all of its steps can be read and one of them is not valid; the error has the index
of the first such step, its name, and what is wrong with it. -/
theorem ofText_validates (text : String) :
    (∀ pipeline, ofText text = .ok pipeline →
        stepsOfText text = .ok pipeline.steps ∧
          ∀ step : Step, step.StandsIn pipeline.steps → step.validate = .ok ()) ∧
      ∀ error, ofText text = .error (.invalid error) ↔
        ∃ steps step, stepsOfText text = .ok steps ∧ steps[error.index]? = some step ∧
          error.step = step.name ∧ step.validate = .error error.cause ∧
          ∀ index < error.index, ∃ earlier, steps[index]? = some earlier ∧
            earlier.validate = .ok () := by
  constructor
  · intro pipeline loaded
    have stored := ofText_eq_ok_iff.1 loaded
    refine ⟨stored, ?_⟩
    intro step stands
    obtain ⟨items, decoded⟩ := exists_items_of_stepsOfText stored
    exact stands.validate_eq_ok decoded pipeline.valid
  · intro error
    rw [ofText_eq_invalid_iff]
    simp only [firstInvalid?_eq_some_iff, Nat.zero_add]
    constructor
    · rintro ⟨steps, stored, count, step, rfl, found⟩
      exact ⟨steps, step, stored, found⟩
    · rintro ⟨steps, step, stored, found⟩
      exact ⟨steps, stored, error.index, step, rfl, found⟩

/-- A text that stores two steps, of which the second drops no column and so is not valid. -/
def idleText : String :=
  "[\x7b\"name\":\"domain\",\"domain\":\"sales\"\x7d,\x7b\"name\":\"delete\",\"columns\":[]\x7d]"

/-- The document that the text holds. -/
def idleDocument : Json :=
  .array
    [ .object [("name", .string "domain"), ("domain", .string "sales")],
      .object [("name", .string "delete"), ("columns", .array [])] ]

theorem stepsOfText_idleText :
    stepsOfText idleText = .ok [.domain "sales", .transform (.delete { columns := [] })] := by
  have read : read? idleText = some idleDocument := by with_unfolding_all rfl
  have writable : idleDocument.Writable := by simp [idleDocument, writable_array]
  have domain : Step.ofJson? false (.object
      [("name", .string "domain"), ("domain", .string "sales")]) = some (.domain "sales") := by
    simp [Step.ofJson?_object, Step.ofBody?_domain, record?, onlyField?]
  have delete : Step.ofJson? false (.object [("name", .string "delete"), ("columns", .array [])]) =
      some (.transform (.delete { columns := [] })) := by
    have named : ∀ body, Transform.ofJson? "delete" body = (Delete.ofJson? body).map .delete :=
      fun _ => rfl
    simp [Step.ofJson?_object, Step.ofBody?_transform, named, Delete.ofJson?, record?, onlyField?,
      texts?, list?]
  have decoded : decodeSteps idleDocument =
      .ok [.domain "sales", .transform (.delete { columns := [] })] := by
    rw [decodeSteps_eq_ok_iff]
    simp [idleDocument, list?, domain, delete]
  rw [stepsOfText, read]
  simp only [writable.lastWins_eq]
  exact decoded

/-- The theorem at a pipeline in place, which is checked although its step is not, and at a text
that is refused for its second step. -/
theorem ofText_validates_mixed :
    ofText mixedText = .ok mixed ∧ (Step.domain "sales").StandsIn mixed.steps ∧
      (Step.domain "sales").validate = .ok () ∧
      ofText idleText = .error (.invalid
        { index := 1, step := "delete", cause := .invalid (.noNames "columns") }) := by
  have below : (Step.domain "sales").StandsIn [.domain "sales"] := .here List.mem_cons_self
  have stands : (Step.domain "sales").StandsIn mixed.steps :=
    .inPlace List.mem_cons_self List.mem_cons_self below
  have valid := ((ofText_validates mixedText).1 mixed ofText_mixedText).2 _ stands
  refine ⟨ofText_mixedText, stands, valid, ?_⟩
  apply ((ofText_validates idleText).2 _).2
  refine ⟨_, _, stepsOfText_idleText, rfl, rfl, rfl, ?_⟩
  intro index first
  cases Nat.lt_one_iff.1 first
  exact ⟨.domain "sales", rfl, by decide⟩

end Pipeline

end TableFlow
