import TableFlow.Condition.Codec
import TableFlow.Proofs.Json.Restore
import TableFlow.Proofs.Number.Finite
import TableFlow.Proofs.Number.Word

/-!
# Conditions read back

The sorts of conditions are tried in a fixed order, so a written condition has to be refused by
all sorts in front of its own. Main statements: cells and conditions that are decoded from a
writable document are restored by their written form.
-/

namespace TableFlow

open TableFlow.Json
open TableFlow.Number

theorem Cell.restores : Restores Cell.ofJson? Cell.toJson := by
  intro document cell writable decoded
  cases writable with
  | null =>
      cases decoded
      exact ⟨.null, rfl⟩
  | boolean value =>
      cases decoded
      exact ⟨.boolean value, rfl⟩
  | integer lower upper =>
      simp only [Cell.ofJson?] at decoded
      split at decoded
      · rename_i word fits
        cases decoded
        have same := toInt_of_word? fits
        constructor
        · rw [Cell.toJson, same]
          exact .integer lower upper
        · simp [Cell.toJson, Cell.ofJson?, word?_toInt]
      · cases decoded
        refine ⟨.float (isFinite_ofInt ?_), rfl⟩
        simp only [leastWord, greatestSignificand] at lower upper
        omega
  | float finite =>
      cases decoded
      exact ⟨.float finite, rfl⟩
  | string value =>
      cases decoded
      exact ⟨.string value, rfl⟩
  | array each => cases decoded
  | object distinct each => cases decoded

instance : LawfulLabelled Comparison where
  ofLabel?_label value := by cases value <;> decide

instance : LawfulLabelled Membership where
  ofLabel?_label value := by cases value <;> decide

instance : LawfulLabelled NullTest where
  ofLabel?_label value := by cases value <;> decide

namespace Condition

/-- The sorts of conditions in the order in which they are tried. -/
theorem ofJson?_eq (document : Json) :
    ofJson? document =
      (((document.member? "and").bind childrenOfJson?).map Condition.all).or
        ((((document.member? "or").bind childrenOfJson?).map Condition.any).or
          ((compareOfJson? document).or ((memberOfJson? document).or (nullOfJson? document)))) := by
  rw [ofJson?]
  congr 1
  · split <;> rename_i found <;> simp [found]
  · congr 1
    split <;> rename_i found <;> simp [found]

theorem ofJson?_toJson_compare (column : String) (operator : Comparison) {cell : Cell}
    (decoded : Cell.ofJson? cell.toJson = some cell) :
    ofJson? (toJson (.compare column operator cell)) = some (.compare column operator cell) := by
  simp [toJson, ofJson?_eq, member?, onlyField?, compareOfJson?, record?, decoded]

theorem ofJson?_toJson_member (column : String) (operator : Membership) {cells : List Cell}
    (decoded : list? Cell.ofJson? (.array (cells.map Cell.toJson)) = some cells) :
    ofJson? (toJson (.member column operator cells)) = some (.member column operator cells) := by
  simp [toJson, ofJson?_eq, member?, onlyField?, compareOfJson?, memberOfJson?, record?, decoded,
    Cell.ofJson?]

theorem ofJson?_toJson_null (column : String) (test : NullTest) :
    ofJson? (toJson (.null column test)) = some (.null column test) := by
  simp [toJson, ofJson?_eq, member?, onlyField?, compareOfJson?, memberOfJson?, nullOfJson?,
    record?, required]

/-- A text is no condition. -/
@[simp] theorem ofJson?_string (text : String) : ofJson? (.string text) = none := by
  simp [ofJson?_eq, member?, compareOfJson?, memberOfJson?, nullOfJson?, record?]

theorem childrenOfJson?_eq (document : Json) :
    childrenOfJson? document = list? ofJson? document := by
  have all (items : List Json) : conditionsOfJson? items = items.mapM ofJson? := by
    apply eq_mapM_of_cons
    · rw [conditionsOfJson?]
    · intro item rest
      rw [conditionsOfJson?]
      cases ofJson? item <;> cases conditionsOfJson? rest <;> rfl
  cases document <;> simp [childrenOfJson?, list?, all]

theorem toJsonAll_eq_map (children : List Condition) :
    toJsonAll children = children.map toJson := by
  induction children with
  | nil => rfl
  | cons child rest ih => rw [toJsonAll, ih, List.map_cons]

theorem stored_all {children : List Condition}
    (each : ∀ child ∈ children, Stored ofJson? child.toJson child) :
    Stored ofJson? (toJson (.all children)) (.all children) := by
  have list := stored_list each
  rw [toJson, toJsonAll_eq_map]
  constructor
  · exact writable_singleton.2 list.writable
  · simp [ofJson?_eq, member?, onlyField?, childrenOfJson?_eq, list.decoded]

theorem stored_any {children : List Condition}
    (each : ∀ child ∈ children, Stored ofJson? child.toJson child) :
    Stored ofJson? (toJson (.any children)) (.any children) := by
  have list := stored_list each
  rw [toJson, toJsonAll_eq_map]
  constructor
  · exact writable_singleton.2 list.writable
  · simp [ofJson?_eq, member?, onlyField?, childrenOfJson?_eq, list.decoded]

theorem stored_of_compareOfJson? {document : Json} {condition : Condition}
    (writable : document.Writable) (decoded : compareOfJson? document = some condition) :
    Stored ofJson? condition.toJson condition := by
  unfold compareOfJson? at decoded
  split at decoded
  · rename_i column operator value read
    simp only [Option.bind_eq_bind, Option.bind_eq_some_iff, required_eq_some_iff, Option.pure_def,
      Option.some.injEq] at decoded
    obtain ⟨column, _, operator, _, cell, ⟨literal, rfl, found⟩, rfl⟩ := decoded
    have stored := Cell.restores (writable_of_record? writable read (by simp)) found
    constructor
    · simp [toJson, stored.writable]
    · exact ofJson?_toJson_compare column operator stored.decoded
  · contradiction

theorem stored_of_memberOfJson? {document : Json} {condition : Condition}
    (writable : document.Writable) (decoded : memberOfJson? document = some condition) :
    Stored ofJson? condition.toJson condition := by
  unfold memberOfJson? at decoded
  split at decoded
  · rename_i column operator value read
    simp only [Option.bind_eq_bind, Option.bind_eq_some_iff, required_eq_some_iff, Option.pure_def,
      Option.some.injEq] at decoded
    obtain ⟨column, _, operator, _, cells, ⟨literals, rfl, found⟩, rfl⟩ := decoded
    have stored := Cell.restores.list (writable_of_record? writable read (by simp)) found
    constructor
    · simp [toJson, stored.writable]
    · exact ofJson?_toJson_member column operator stored.decoded
  · contradiction

theorem stored_of_nullOfJson? {document : Json} {condition : Condition}
    (decoded : nullOfJson? document = some condition) :
    Stored ofJson? condition.toJson condition := by
  unfold nullOfJson? at decoded
  split at decoded
  · simp only [Option.bind_eq_bind, Option.bind_eq_some_iff, Option.pure_def,
      Option.some.injEq] at decoded
    obtain ⟨column, _, test, _, rfl⟩ := decoded
    constructor
    · simp [toJson]
    · exact ofJson?_toJson_null column test
  · contradiction

/-- The children of a node come from smaller documents. -/
theorem source_of_member? {name : String} {document : Json} {children : List Condition}
    (writable : document.Writable)
    (decoded : (document.member? name).bind childrenOfJson? = some children) :
    ∀ child ∈ children, ∃ source : Json,
      sizeOf source < sizeOf document ∧ source.Writable ∧ ofJson? source = some child := by
  obtain ⟨value, found, decoded⟩ := Option.bind_eq_some_iff.1 decoded
  have valueWritable := writable_of_member? writable found
  have valueSmaller := sizeOf_of_member? found
  intro child inside
  rw [childrenOfJson?_eq] at decoded
  cases value with
  | array items =>
      obtain ⟨item, member, same⟩ := mem_of_mapM_eq_some decoded child inside
      exact ⟨item, Nat.lt_trans (sizeOf_item member) valueSmaller,
        valueWritable.item item member, same⟩
  | _ => cases decoded

/-- A decoded condition is stored by its written form. -/
theorem restores : Restores ofJson? toJson := by
  intro document condition writable decoded
  rw [ofJson?_eq] at decoded
  simp only [Option.or_eq_some_iff] at decoded
  rcases decoded with all | ⟨_, any | ⟨_, compare | ⟨_, member | ⟨_, null⟩⟩⟩⟩
  · obtain ⟨children, found, rfl⟩ := Option.map_eq_some_iff.1 all
    apply stored_all
    intro child inside
    obtain ⟨source, smaller, sourceWritable, same⟩ := source_of_member? writable found child inside
    exact restores sourceWritable same
  · obtain ⟨children, found, rfl⟩ := Option.map_eq_some_iff.1 any
    apply stored_any
    intro child inside
    obtain ⟨source, smaller, sourceWritable, same⟩ := source_of_member? writable found child inside
    exact restores sourceWritable same
  · exact stored_of_compareOfJson? writable compare
  · exact stored_of_memberOfJson? writable member
  · exact stored_of_nullOfJson? null
termination_by document => sizeOf document

end Condition

end TableFlow
