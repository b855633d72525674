import TableFlow.Json.Basic

/-!
# Records in documents

A record is stored as an object with named fields, or as an array that gives the values
of the fields in order and may stop early. Fields that the record does not know are
ignored; a field that it knows must not be repeated. A choice among names is stored as
the name, or as an object that has the name as its only field and nothing in it.
-/

namespace TableFlow.Json

/-- The value of a field that occurs once; `some none` if it does not occur, and none if
it is repeated. -/
def onlyField? (fields : List (String × Json)) (name : String) : Option (Option Json) :=
  match fields.filter fun field => field.1 == name with
  | [] => some none
  | [(_, value)] => some (some value)
  | _ => none

/-- The values of the fields of a record, in the order of their names, each if it is
there. -/
def record? (names : List String) : Json → Option (List (Option Json))
  | .array items =>
      if items.length ≤ names.length then
        some (items.map some ++ List.replicate (names.length - items.length) none)
      else none
  | .object fields => names.mapM (onlyField? fields)
  | _ => none

/-- The value of a field of an object in which it occurs once. -/
def member? (name : String) : Json → Option Json
  | .object fields => (onlyField? fields name).join
  | _ => none

/-- A record with a tag: the tag is the field `label` of an object or the first item of an
array, and the record is what the rest holds. -/
def tagged? (label : String) : Json → Option (Json × Json)
  | .array (tag :: rest) => some (tag, .array rest)
  | .object fields =>
      match onlyField? fields label with
      | some (some tag) => some (tag, .object fields)
      | _ => none
  | _ => none

theorem mem_of_onlyField? {fields : List (String × Json)} {name : String} {value : Json}
    (found : onlyField? fields name = some (some value)) : ∃ field ∈ fields, field.2 = value := by
  unfold onlyField? at found
  split at found
  · simp at found
  · rename_i other item same
    have inside : (other, item) ∈ fields.filter (fun field => field.1 == name) := by
      simp [same]
    simp only [Option.some.injEq] at found
    exact ⟨(other, item), (List.mem_filter.1 inside).1, found⟩
  · contradiction

theorem sizeOf_of_onlyField? {fields : List (String × Json)} {name : String} {value : Json}
    (found : onlyField? fields name = some (some value)) : sizeOf value < sizeOf fields := by
  obtain ⟨⟨other, item⟩, inside, same⟩ := mem_of_onlyField? found
  have smaller := List.sizeOf_lt_of_mem inside
  simp only [Prod.mk.sizeOf_spec] at smaller
  simp only at same
  subst same
  omega

/-- The value of a field is smaller than the record. -/
theorem sizeOf_of_record? {names : List String} {document value : Json}
    {values : List (Option Json)} (read : record? names document = some values)
    (inside : some value ∈ values) : sizeOf value < sizeOf document := by
  cases document with
  | array items =>
      simp only [record?] at read
      split at read
      · simp only [Option.some.injEq] at read
        subst read
        simp only [List.mem_append, List.mem_map, Option.some.injEq, exists_eq_right,
          List.mem_replicate, reduceCtorEq, and_false, or_false] at inside
        have := List.sizeOf_lt_of_mem inside
        simp only [Json.array.sizeOf_spec]
        omega
      · contradiction
  | object fields =>
      simp only [record?] at read
      have found : ∀ {names : List String} {values : List (Option Json)},
          names.mapM (onlyField? fields) = some values → some value ∈ values →
            sizeOf value < sizeOf fields := by
        intro names
        induction names with
        | nil =>
            intro values read inside
            simp_all
        | cons name rest ih =>
            intro values read inside
            simp only [List.mapM_cons, Option.bind_eq_bind, Option.bind_eq_some_iff,
              Option.pure_def, Option.some.injEq] at read
            obtain ⟨first, firstFound, others, othersFound, same⟩ := read
            subst same
            rcases List.mem_cons.1 inside with same | later
            · subst same
              exact sizeOf_of_onlyField? firstFound
            · exact ih othersFound later
      have := found read inside
      simp only [Json.object.sizeOf_spec]
      omega
  | _ => simp [record?] at read

/-- The value of a field is smaller than the object. -/
theorem sizeOf_of_member? {name : String} {document value : Json}
    (found : member? name document = some value) : sizeOf value < sizeOf document := by
  cases document with
  | object fields =>
      simp only [member?, Option.join_eq_some_iff] at found
      have := sizeOf_of_onlyField? found
      simp only [Json.object.sizeOf_spec]
      omega
  | _ => simp [member?] at found

/-- The record behind a tag is not larger than the document. -/
theorem sizeOf_of_tagged? {label : String} {document tag body : Json}
    (found : tagged? label document = some (tag, body)) : sizeOf body ≤ sizeOf document := by
  unfold tagged? at found
  split at found
  · simp only [Option.some.injEq, Prod.mk.injEq] at found
    obtain ⟨_, same⟩ := found
    subst same
    simp only [Json.array.sizeOf_spec, List.cons.sizeOf_spec]
    omega
  · split at found
    · simp only [Option.some.injEq, Prod.mk.injEq] at found
      exact Nat.le_of_eq (congrArg sizeOf found.2.symm)
    · contradiction
  · contradiction

/-! ## Values of fields -/

/-- A field that has to be there. -/
def required {α : Type} (decode : Json → Option α) : Option Json → Option α
  | some value => decode value
  | none => none

/-- A field that may be missing. -/
def defaulted {α : Type} (fallback : α) (decode : Json → Option α) : Option Json → Option α
  | some value => decode value
  | none => some fallback

def text? : Json → Option String
  | .string value => some value
  | _ => none

/-- A text or nothing. -/
def textOrNull? : Json → Option (Option String)
  | .null => some none
  | .string value => some (some value)
  | _ => none

def boolean? : Json → Option Bool
  | .boolean value => some value
  | _ => none

/-- An integer from zero up to a bound, the bound excluded. -/
def natBelow? (bound : Nat) : Json → Option Nat
  | .integer (.ofNat value) => if value < bound then some value else none
  | _ => none

def list? {α : Type} (decode : Json → Option α) : Json → Option (List α)
  | .array items => items.mapM decode
  | _ => none

def pair? {α : Type} (decode : Json → Option α) : Json → Option (α × α)
  | .array [first, second] =>
      match decode first, decode second with
      | some first, some second => some (first, second)
      | _, _ => none
  | _ => none

def texts? : Json → Option (List String) :=
  list? text?

/-- A list of texts as a document. -/
def ofTexts (texts : List String) : Json :=
  .array (texts.map .string)

/-- A pair of texts as a document. -/
def ofPair (pair : String × String) : Json :=
  .array [.string pair.1, .string pair.2]

/-- The field of an optional text, which is left out if there is none. -/
def optionalField (name : String) : Option String → List (String × Json)
  | some value => [(name, .string value)]
  | none => []

/-- A type of finitely many values, each stored under a name of its own. -/
class Labelled (α : Type) where
  label : α → String
  all : List α

/-- The value that a name stands for. -/
def ofLabel? {α : Type} [Labelled α] (name : String) : Option α :=
  (Labelled.all : List α).find? fun value => Labelled.label value == name

/-- A choice inside a step: a name, or an object with the name as its only field, which
holds null or an empty object. -/
def choice? {α : Type} [Labelled α] : Json → Option α
  | .string name => ofLabel? name
  | .object [(name, .null)] => ofLabel? name
  | .object [(name, .object [])] => ofLabel? name
  | _ => none

/-- A choice inside a condition: a name, or an object with the name as its only field,
which holds null. -/
def strictChoice? {α : Type} [Labelled α] : Json → Option α
  | .string name => ofLabel? name
  | .object [(name, .null)] => ofLabel? name
  | _ => none

/-- A choice as a document. -/
def ofChoice {α : Type} [Labelled α] (value : α) : Json :=
  .string (Labelled.label value)

end TableFlow.Json
