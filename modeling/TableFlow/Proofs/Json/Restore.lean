import TableFlow.Json.Record
import TableFlow.Proofs.Json.Writable

/-!
# Values restored from documents

A value may be stored in several forms, and writing picks one of them. A pair of a decoder and an
encoder restores if every value that the decoder finds in a writable document is written to a
writable document in which the decoder finds it again. This module proves so for the parts of
records; the records themselves are treated with their types.
-/

namespace TableFlow.Json

open TableFlow.Number

/-- A document that can be written and from which a value is decoded. -/
structure Stored {α : Type} (decode : Json → Option α) (document : Json) (value : α) : Prop where
  writable : document.Writable
  decoded : decode document = some value

/-- What is decoded from a writable document is stored by its encoding. -/
def Restores {α : Type} (decode : Json → Option α) (encode : α → Json) : Prop :=
  ∀ {document value}, document.Writable → decode document = some value →
    Stored decode (encode value) value

theorem Stored.map {α β : Type} {decode : Json → Option α} {document : Json} {value : α}
    (stored : Stored decode document value) (f : α → β) :
    Stored (fun document => (decode document).map f) document (f value) :=
  ⟨stored.writable, congrArg (Option.map f) stored.decoded⟩

@[simp] theorem writable_null : Json.null.Writable :=
  .null

@[simp] theorem writable_boolean (value : Bool) : (Json.boolean value).Writable :=
  .boolean value

@[simp] theorem writable_string (value : String) : (Json.string value).Writable :=
  .string value

theorem writable_array {items : List Json} :
    (Json.array items).Writable ↔ ∀ item ∈ items, item.Writable :=
  ⟨Writable.item, .array⟩

@[simp] theorem writable_array_map {α : Type} {encode : α → Json} {values : List α} :
    (Json.array (values.map encode)).Writable ↔ ∀ value ∈ values, (encode value).Writable := by
  rw [writable_array, List.forall_mem_map]

@[simp] theorem writable_object {fields : List (String × Json)} :
    (Json.object fields).Writable ↔
      (fields.map Prod.fst).Nodup ∧ ∀ field ∈ fields, field.2.Writable := by
  constructor
  · intro writable
    cases writable with
    | object distinct each => exact ⟨distinct, each⟩
  · intro parts
    exact .object parts.1 parts.2

theorem writable_singleton {name : String} {value : Json} :
    (Json.object [(name, value)]).Writable ↔ value.Writable := by
  simp

@[simp] theorem writable_ofTexts (texts : List String) : (ofTexts texts).Writable := by
  simp [ofTexts]

@[simp] theorem writable_ofPair (pair : String × String) : (ofPair pair).Writable := by
  simp [ofPair, writable_array]

@[simp] theorem writable_ofChoice {α : Type} [Labelled α] (value : α) :
    (ofChoice value).Writable :=
  .string _

/-- The value of a field of a writable object is writable. -/
theorem writable_of_onlyField? {fields : List (String × Json)} {name : String} {value : Json}
    (each : ∀ field ∈ fields, field.2.Writable)
    (found : onlyField? fields name = some (some value)) : value.Writable := by
  obtain ⟨field, inside, same⟩ := mem_of_onlyField? found
  rw [← same]
  exact each field inside

theorem writable_of_member? {name : String} {document value : Json}
    (writable : document.Writable) (found : member? name document = some value) :
    value.Writable := by
  cases document with
  | object fields =>
      simp only [member?, Option.join_eq_some_iff] at found
      exact writable_of_onlyField? writable.field found
  | _ => simp [member?] at found

/-- The values of the fields of a writable record are writable. -/
theorem writable_of_record? {names : List String} {document value : Json}
    {values : List (Option Json)} (writable : document.Writable)
    (read : record? names document = some values) (inside : some value ∈ values) :
    value.Writable := by
  cases document with
  | array items =>
      simp only [record?] at read
      split at read
      · cases read
        simp only [List.mem_append, List.mem_map, Option.some.injEq, exists_eq_right,
          List.mem_replicate, reduceCtorEq, and_false, or_false] at inside
        exact writable.item value inside
      · contradiction
  | object fields =>
      simp only [record?] at read
      induction names generalizing values with
      | nil =>
          cases read
          cases inside
      | cons name rest ih =>
          simp only [List.mapM_cons, Option.bind_eq_bind, Option.bind_eq_some_iff, Option.pure_def,
            Option.some.injEq] at read
          obtain ⟨first, firstFound, others, othersFound, same⟩ := read
          subst same
          rcases List.mem_cons.1 inside with same | later
          · subst same
            exact writable_of_onlyField? writable.field firstFound
          · exact ih later othersFound
  | _ => simp [record?] at read

theorem writable_of_tagged? {label : String} {document tag body : Json}
    (writable : document.Writable) (found : tagged? label document = some (tag, body)) :
    body.Writable := by
  unfold tagged? at found
  split at found
  · cases found
    apply Writable.array
    intro item inside
    exact writable.item item (List.mem_cons_of_mem _ inside)
  · split at found
    · cases found
      exact writable
    · contradiction
  · contradiction

@[simp] theorem required_eq_some_iff {α : Type} {decode : Json → Option α} {field : Option Json}
    {value : α} :
    required decode field = some value ↔ ∃ document, field = some document ∧
      decode document = some value := by
  cases field with
  | none => simp [required]
  | some document => simp [required]

@[simp] theorem required_some {α : Type} (decode : Json → Option α) (document : Json) :
    required decode (some document) = decode document :=
  rfl

@[simp] theorem defaulted_some {α : Type} (fallback : α) (decode : Json → Option α)
    (document : Json) : defaulted fallback decode (some document) = decode document :=
  rfl

@[simp] theorem defaulted_none {α : Type} (fallback : α) (decode : Json → Option α) :
    defaulted fallback decode none = some fallback :=
  rfl

@[simp] theorem text?_string (value : String) : text? (.string value) = some value :=
  rfl

@[simp] theorem textOrNull?_string (value : String) :
    textOrNull? (.string value) = some (some value) :=
  rfl

@[simp] theorem boolean?_boolean (value : Bool) : boolean? (.boolean value) = some value :=
  rfl

/-- A list is decoded if each of its items is. -/
theorem list?_map {α : Type} {decode : Json → Option α} {encode : α → Json} {values : List α}
    (each : ∀ value ∈ values, decode (encode value) = some value) :
    list? decode (.array (values.map encode)) = some values := by
  simp only [list?]
  induction values with
  | nil => rfl
  | cons value rest ih =>
      obtain ⟨first, others⟩ := List.forall_mem_cons.1 each
      simp [List.mapM_cons, first, ih others]

@[simp] theorem texts?_ofTexts (texts : List String) : texts? (ofTexts texts) = some texts :=
  list?_map fun _ _ => rfl

@[simp] theorem list?_pair?_ofPair (pairs : List (String × String)) :
    list? (pair? text?) (.array (pairs.map ofPair)) = some pairs :=
  list?_map fun _ _ => rfl

/-- A type of labelled values in which every label stands for its value. -/
class LawfulLabelled (α : Type) [Labelled α] : Prop where
  ofLabel?_label : ∀ value : α, ofLabel? (Labelled.label value) = some value

@[simp] theorem choice?_ofChoice {α : Type} [Labelled α] [LawfulLabelled α] (value : α) :
    choice? (ofChoice value) = some value :=
  LawfulLabelled.ofLabel?_label value

@[simp] theorem strictChoice?_ofChoice {α : Type} [Labelled α] [LawfulLabelled α] (value : α) :
    strictChoice? (ofChoice value) = some value :=
  LawfulLabelled.ofLabel?_label value

@[simp] theorem list?_choice?_ofChoice {α : Type} [Labelled α] [LawfulLabelled α]
    (values : List α) : list? choice? (.array (values.map ofChoice)) = some values :=
  list?_map fun value _ => choice?_ofChoice value

/-- Numbers of the range that is read exactly are restored. -/
theorem restores_natBelow? {bound : Nat} (small : bound ≤ greatestSignificand) :
    Restores (natBelow? bound) fun value => .integer value := by
  intro document value _ decoded
  unfold natBelow? at decoded
  split at decoded
  · split at decoded
    · rename_i below
      cases decoded
      constructor
      · refine .integer ?_ (by omega)
        exact Int.le_trans (by decide) (Int.natCast_nonneg value)
      · exact if_pos below
    · contradiction
  · contradiction

theorem mem_of_mapM_eq_some {α : Type} {decode : Json → Option α} {items : List Json}
    {values : List α} (decoded : items.mapM decode = some values) :
    ∀ value ∈ values, ∃ item ∈ items, decode item = some value := by
  induction items generalizing values with
  | nil =>
      cases decoded
      intro value inside
      cases inside
  | cons item rest ih =>
      simp only [List.mapM_cons, Option.bind_eq_bind, Option.bind_eq_some_iff, Option.pure_def,
        Option.some.injEq] at decoded
      obtain ⟨first, found, others, later, rfl⟩ := decoded
      rw [List.forall_mem_cons]
      constructor
      · exact ⟨item, List.mem_cons_self, found⟩
      · intro value inside
        obtain ⟨source, member, same⟩ := ih later value inside
        exact ⟨source, List.mem_cons_of_mem _ member, same⟩

/-- A decoder of lists that goes from item to item decodes every item. -/
theorem eq_mapM_of_cons {α : Type} {decode : Json → Option α}
    {decodeAll : List Json → Option (List α)} (nil : decodeAll [] = some [])
    (cons : ∀ item rest, decodeAll (item :: rest) = do
      return (← decode item) :: (← decodeAll rest))
    (items : List Json) : decodeAll items = items.mapM decode := by
  induction items with
  | nil => exact nil
  | cons item rest ih => rw [cons, ih, List.mapM_cons]

theorem sizeOf_item {items : List Json} {item : Json} (inside : item ∈ items) :
    sizeOf item < sizeOf (Json.array items) := by
  have smaller := List.sizeOf_lt_of_mem inside
  simp only [Json.array.sizeOf_spec]
  omega

theorem stored_list {α : Type} {decode : Json → Option α} {encode : α → Json} {values : List α}
    (each : ∀ value ∈ values, Stored decode (encode value) value) :
    Stored (list? decode) (.array (values.map encode)) values := by
  constructor
  · rw [writable_array_map]
    exact fun value member => (each value member).writable
  · exact list?_map fun value member => (each value member).decoded

theorem Restores.list {α : Type} {decode : Json → Option α} {encode : α → Json}
    (restores : Restores decode encode) :
    Restores (list? decode) fun values => .array (values.map encode) := by
  intro document values writable decoded
  cases document with
  | array items =>
      apply stored_list
      intro value inside
      obtain ⟨item, member, found⟩ := mem_of_mapM_eq_some decoded value inside
      exact restores (writable.item item member) found
  | _ => cases decoded

/-- A list that is missing is as good as an empty one. -/
theorem Restores.defaultedList {α : Type} {decode : Json → Option α} {encode : α → Json}
    (restores : Restores decode encode) {field : Option Json} {values : List α}
    (writable : ∀ document, field = some document → document.Writable)
    (decoded : defaulted [] (list? decode) field = some values) :
    Stored (list? decode) (.array (values.map encode)) values := by
  cases field with
  | none =>
      cases decoded
      exact stored_list nofun
  | some document => exact Restores.list restores (writable document rfl) decoded

theorem Restores.pair {α : Type} {decode : Json → Option α} {encode : α → Json}
    (restores : Restores decode encode) :
    Restores (pair? decode) fun pair => .array [encode pair.1, encode pair.2] := by
  intro document pair writable decoded
  unfold pair? at decoded
  split at decoded
  · rename_i first second
    split at decoded
    · rename_i left right leftFound rightFound
      cases decoded
      have leftStored := restores (writable.item first (by simp)) leftFound
      have rightStored := restores (writable.item second (by simp)) rightFound
      constructor
      · simp [writable_array, leftStored.writable, rightStored.writable]
      · simp [pair?, leftStored.decoded, rightStored.decoded]
    · contradiction
  · contradiction

end TableFlow.Json
