import TableFlow.Json.Number

/-!
# Writable documents

A document can be written without loss if its integers fit in 64 bits, its floats are finite and
no object repeats a name. Main statements: in such a document every name already has its last
value, and keeping last values only is how an object gets distinct names.
-/

namespace TableFlow.Json

open TableFlow.Number

/-- A document that its text determines. -/
inductive Writable : Json → Prop where
  | null : Writable .null
  | boolean (value : Bool) : Writable (.boolean value)
  | integer {value : Int} (lower : leastWord ≤ value) (upper : value ≤ greatestSignificand) :
      Writable (.integer value)
  | float {value : Float} (finite : isFinite value = true) : Writable (.float value)
  | string (value : String) : Writable (.string value)
  | array {items : List Json} (each : ∀ item ∈ items, Writable item) : Writable (.array items)
  | object {fields : List (String × Json)} (distinct : (fields.map Prod.fst).Nodup)
      (each : ∀ field ∈ fields, Writable field.2) : Writable (.object fields)

theorem Writable.item {items : List Json} (writable : Writable (.array items)) :
    ∀ item ∈ items, Writable item := by
  cases writable with
  | array each => exact each

theorem Writable.field {fields : List (String × Json)} (writable : Writable (.object fields)) :
    ∀ field ∈ fields, Writable field.2 := by
  cases writable with
  | object distinct each => exact each

theorem lastWinsItems_eq_map (items : List Json) : lastWinsItems items = items.map lastWins := by
  induction items with
  | nil => rfl
  | cons item rest ih => simp [lastWinsItems, ih]

/-- A field that counts stands among the fields. -/
theorem mem_of_mem_lastWinsFields {fields : List (String × Json)} {field : String × Json}
    (inside : field ∈ lastWinsFields fields) :
    ∃ original ∈ fields, field = (original.1, original.2.lastWins) := by
  induction fields with
  | nil => cases inside
  | cons first rest ih =>
      obtain ⟨name, value⟩ := first
      simp only [lastWinsFields] at inside
      split at inside
      · obtain ⟨original, later, same⟩ := ih inside
        exact ⟨original, List.mem_cons_of_mem _ later, same⟩
      · rcases List.mem_cons.1 inside with same | later
        · exact ⟨(name, value), List.mem_cons_self, same⟩
        · obtain ⟨original, later, same⟩ := ih later
          exact ⟨original, List.mem_cons_of_mem _ later, same⟩

/-- Keeping last values only leaves distinct names. -/
theorem nodup_lastWinsFields (fields : List (String × Json)) :
    ((lastWinsFields fields).map Prod.fst).Nodup := by
  induction fields with
  | nil => exact List.nodup_nil
  | cons first rest ih =>
      obtain ⟨name, value⟩ := first
      simp only [lastWinsFields]
      split
      · exact ih
      · rename_i last
        rw [List.map_cons, List.nodup_cons]
        refine ⟨?_, ih⟩
        intro repeated
        obtain ⟨field, inside, same⟩ := List.mem_map.1 repeated
        obtain ⟨original, later, shape⟩ := mem_of_mem_lastWinsFields inside
        apply last
        rw [List.any_eq_true]
        refine ⟨original, later, beq_iff_eq.2 ?_⟩
        rw [shape] at same
        exact same

/-- Fields of distinct names all count. -/
theorem lastWinsFields_eq_map {fields : List (String × Json)}
    (distinct : (fields.map Prod.fst).Nodup) :
    lastWinsFields fields = fields.map fun field => (field.1, field.2.lastWins) := by
  induction fields with
  | nil => rfl
  | cons first rest ih =>
      obtain ⟨name, value⟩ := first
      rw [List.map_cons, List.nodup_cons] at distinct
      have last : ¬ (rest.any fun field => field.1 == name) = true := by
        rw [List.any_eq_true]
        rintro ⟨field, inside, same⟩
        exact distinct.1 (List.mem_map.2 ⟨field, inside, beq_iff_eq.1 same⟩)
      simp only [lastWinsFields]
      rw [if_neg last, ih distinct.2, List.map_cons]

/-- In a writable document every value is the last one of its name. -/
theorem Writable.lastWins_eq {document : Json} (writable : Writable document) :
    document.lastWins = document := by
  induction writable with
  | null => rfl
  | boolean value => rfl
  | integer lower upper => rfl
  | float finite => rfl
  | string value => rfl
  | @array items each ih =>
      rw [lastWins, lastWinsItems_eq_map, List.map_congr_left ih, List.map_id']
  | @object fields distinct each ih =>
      have same : ∀ field ∈ fields, (field.1, field.2.lastWins) = field := by
        intro field inside
        rw [ih field inside]
      rw [lastWins, lastWinsFields_eq_map distinct, List.map_congr_left same, List.map_id']

mutual

/-- The floats in a document. -/
def floats : Json → List Float
  | .float value => [value]
  | .array items => floatsItems items
  | .object fields => floatsFields fields
  | _ => []

/-- The floats in several documents. -/
def floatsItems : List Json → List Float
  | [] => []
  | item :: rest => item.floats ++ floatsItems rest

/-- The floats in the values of some fields. -/
def floatsFields : List (String × Json) → List Float
  | [] => []
  | (_, value) :: rest => value.floats ++ floatsFields rest

end

theorem floatsItems_eq_flatMap (items : List Json) : floatsItems items = items.flatMap floats := by
  induction items with
  | nil => rfl
  | cons item rest ih => rw [floatsItems, ih, List.flatMap_cons]

theorem floatsFields_eq_flatMap (fields : List (String × Json)) :
    floatsFields fields = fields.flatMap fun field => field.2.floats := by
  induction fields with
  | nil => rfl
  | cons field rest ih => rw [floatsFields, ih, List.flatMap_cons]

theorem Writable.isFinite {document : Json} (writable : Writable document) :
    ∀ value ∈ document.floats, isFinite value = true := by
  induction writable with
  | @float held finite =>
      intro value inside
      rw [List.mem_singleton.1 inside]
      exact finite
  | array each ih =>
      intro value inside
      rw [floats, floatsItems_eq_flatMap] at inside
      obtain ⟨item, member, held⟩ := List.mem_flatMap.1 inside
      exact ih item member value held
  | object distinct each ih =>
      intro value inside
      rw [floats, floatsFields_eq_flatMap] at inside
      obtain ⟨field, member, held⟩ := List.mem_flatMap.1 inside
      exact ih field member value held
  | _ =>
      intro value inside
      cases inside

end TableFlow.Json
