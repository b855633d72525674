import Mathlib.Data.List.Basic
import Mathlib.Data.List.Induction

/-!
# Results and lists

What is used everywhere about computations that can fail and about lists by position.  A computation
that can fail succeeds on a list exactly when it succeeds on each item.
-/

namespace TableFlow

variable {α β ε : Type}

/-- Two stages succeed if the first one does, and then the second. -/
theorem bind_eq_ok_iff {first : Except ε α} {second : α → Except ε β} {result : β} :
    first.bind second = .ok result ↔ ∃ value, first = .ok value ∧ second value = .ok result := by
  cases first <;> simp [Except.bind]

theorem map_eq_ok_iff {first : Except ε α} {change : α → β} {result : β} :
    first.map change = .ok result ↔ ∃ value, first = .ok value ∧ change value = result := by
  cases first <;> simp [Except.map]

theorem mapError_eq_ok_iff {first : Except ε α} {ζ : Type} {change : ε → ζ} {result : α} :
    first.mapError change = .ok result ↔ first = .ok result := by
  cases first <;> simp [Except.mapError]

section Traversal

variable {compute : α → Except ε β} {items : List α}

/-- A traversal succeeds if it succeeds on every item. -/
theorem mapM_eq_ok_map {value : α → β} (each : ∀ item ∈ items, compute item = .ok (value item)) :
    items.mapM compute = .ok (items.map value) := by
  induction items with
  | nil => rfl
  | cons item rest ih =>
      have first := each item List.mem_cons_self
      have others := ih fun later membership => each later (List.mem_cons_of_mem item membership)
      rw [List.mapM_cons, first, others]
      rfl

theorem mapM_singleton_eq_ok {item : α} {result : β} (computed : compute item = .ok result) :
    [item].mapM compute = .ok [result] := by
  rw [List.mapM_cons, computed, List.mapM_nil]
  rfl

/-- A traversal that succeeds has succeeded on every item; its results are in the order of the
items.  Elsewhere the function that gives the results has an arbitrary value. -/
theorem exists_of_mapM_eq_ok (elsewhere : β) {results : List β}
    (traversed : items.mapM compute = .ok results) :
    ∃ value : α → β, (∀ item ∈ items, compute item = .ok (value item)) ∧
      results = items.map value := by
  let value : α → β := fun item => (compute item).toOption.getD elsewhere
  have value_of_ok {item : α} {result : β} (computed : compute item = .ok result) :
      value item = result := by
    simp only [value, computed]
    rfl
  refine ⟨value, ?_⟩
  induction items generalizing results with
  | nil =>
      cases traversed
      exact ⟨by simp, rfl⟩
  | cons item rest ih =>
      rw [List.mapM_cons] at traversed
      cases computed : compute item with
      | error error =>
          rw [computed] at traversed
          cases traversed
      | ok result =>
          cases others : rest.mapM compute with
          | error error =>
              rw [computed, others] at traversed
              cases traversed
          | ok later =>
              rw [computed, others] at traversed
              cases traversed
              obtain ⟨each, laterEq⟩ := ih others
              constructor
              · intro other membership
                rcases List.mem_cons.1 membership with rfl | inRest
                · rw [computed, value_of_ok computed]
                · exact each other inRest
              · rw [List.map_cons, value_of_ok computed, ← laterEq]

/-- A traversal that fails has failed on an item. -/
theorem exists_of_mapM_eq_error {error : ε} (failed : items.mapM compute = .error error) :
    ∃ item ∈ items, compute item = .error error := by
  induction items with
  | nil => cases failed
  | cons item rest ih =>
      rw [List.mapM_cons] at failed
      cases computed : compute item with
      | error found =>
          rw [computed] at failed
          cases failed
          exact ⟨item, List.mem_cons_self, computed⟩
      | ok result =>
          cases others : rest.mapM compute with
          | error found =>
              rw [computed, others] at failed
              cases failed
              obtain ⟨later, inRest, failedThere⟩ := ih others
              exact ⟨later, List.mem_cons_of_mem item inRest, failedThere⟩
          | ok results =>
              rw [computed, others] at failed
              cases failed

/-- A traversal succeeds where it succeeds on every item, with the results of the items. -/
theorem mapM_eq_ok_iff_of {holds : α → Prop} {value : α → β}
    (each : ∀ item ∈ items, ∀ result,
      compute item = .ok result ↔ holds item ∧ result = value item) (results : List β) :
    items.mapM compute = .ok results ↔
      (∀ item ∈ items, holds item) ∧ results = items.map value := by
  constructor
  · intro traversed
    cases items with
    | nil =>
        cases traversed
        exact ⟨by simp, rfl⟩
    | cons first rest =>
        obtain ⟨found, computed, rfl⟩ := exists_of_mapM_eq_ok (value first) traversed
        have both (item : α) (member : item ∈ first :: rest) :
            holds item ∧ found item = value item :=
          (each item member _).1 (computed item member)
        exact ⟨fun item member => (both item member).1,
          List.map_congr_left fun item member => (both item member).2⟩
  · rintro ⟨all, rfl⟩
    exact mapM_eq_ok_map fun item member => (each item member _).2 ⟨all item member, rfl⟩

theorem mapM_eq_ok_iff_toOption (elsewhere : β) (results : List β) :
    items.mapM compute = .ok results ↔
      (∀ item ∈ items, ∃ result, compute item = .ok result) ∧
        results = items.map fun item => (compute item).toOption.getD elsewhere := by
  apply mapM_eq_ok_iff_of
  intro item _ result
  cases compute item with
  | error error => simp
  | ok computed => simp [Except.toOption, eq_comm]

end Traversal

/-! ## Lists by position -/

/-- What is computed for the positions of some rows is computed for these rows. -/
theorem map_range_eq_map {rows : List Nat} {ofPosition ofRow : Nat → α}
    (agree : ∀ index (bound : index < rows.length), ofPosition index = ofRow rows[index]) :
    (List.range rows.length).map ofPosition = rows.map ofRow := by
  apply List.ext_getElem
  · simp
  · intro index _ bound
    simpa using agree index (by simpa using bound)

/-- Rows are the images of their positions. -/
theorem map_getD_range (rows : List Nat) (beyond : Nat) :
    (List.range rows.length).map (rows.getD · beyond) = rows := by
  apply List.ext_getElem
  · simp
  · intro index _ bound
    simp [bound]

/-- Rows with their numbers. -/
theorem zipIdx_map_range {α : Type} (count : Nat) (value : Nat → α) :
    ((List.range count).map value).zipIdx = (List.range count).map fun row => (value row, row) := by
  apply List.ext_getElem <;> simp

/-- What is kept and computed by position is kept and computed item by item. -/
theorem map_filter_range {α β : Type} {items : List α} {passesAt : Nat → Bool} {passes : α → Bool}
    {valueAt : Nat → β} {value : α → β}
    (samePass : ∀ index item, items[index]? = some item → passesAt index = passes item)
    (sameValue : ∀ index item, items[index]? = some item → passes item = true →
      valueAt index = value item) :
    ((List.range items.length).filter passesAt).map valueAt = (items.filter passes).map value := by
  induction items using List.reverseRecOn with
  | nil => rfl
  | append_singleton items last ih =>
      have before (index : Nat) (item : α) (atIndex : items[index]? = some item) :
          (items ++ [last])[index]? = some item :=
        (List.getElem?_append_left (List.getElem?_eq_some_iff.1 atIndex).1).trans atIndex
      have atLast : (items ++ [last])[items.length]? = some last := List.getElem?_concat_length
      have earlier := ih (fun index item atIndex => samePass index item (before index item atIndex))
        fun index item atIndex => sameValue index item (before index item atIndex)
      rw [List.length_append, List.length_singleton, List.range_succ, List.filter_append,
        List.filter_append, List.map_append, List.map_append, earlier, List.filter_singleton,
        List.filter_singleton, samePass _ _ atLast]
      cases kept : passes last with
      | false => rfl
      | true => rw [cond_true, cond_true, List.map_singleton, List.map_singleton,
          sameValue _ _ atLast kept]

/-- Of some blocks only one is not empty. -/
theorem flatMap_range_single {α : Type} {count index : Nat} (bound : index < count)
    (block : Nat → List α) :
    ((List.range count).flatMap fun other => if other = index then block other else []) =
      block index := by
  induction count with
  | zero => cases bound
  | succ count ih =>
      rw [List.range_succ, List.flatMap_append, List.flatMap_singleton]
      rcases Nat.lt_succ_iff_lt_or_eq.1 bound with earlier | rfl
      · rw [ih earlier, if_neg (Nat.ne_of_gt earlier), List.append_nil]
      · have none : ((List.range index).flatMap fun other =>
            if other = index then block other else []) = [] := by
          rw [List.flatMap_eq_nil_iff]
          intro other inRange
          rw [if_neg (Nat.ne_of_lt (List.mem_range.1 inRange))]
        rw [none, if_pos rfl, List.nil_append]

/-- The first of some increasing rows are those up to a row. -/
theorem take_eq_filter_le {rows : List Nat} (increasing : rows.Pairwise (· < ·)) {index row : Nat}
    (atIndex : rows[index]? = some row) : rows.take (index + 1) = rows.filter (· ≤ row) := by
  induction rows generalizing index with
  | nil => simp at atIndex
  | cons first rest ih =>
      rw [List.pairwise_cons] at increasing
      rw [List.take_succ_cons, List.filter_cons]
      cases index with
      | zero =>
          cases atIndex
          have none : rest.filter (· ≤ row) = [] := by
            rw [List.filter_eq_nil_iff]
            intro later member
            simpa using increasing.1 later member
          simp [none]
      | succ index =>
          have before : first ≤ row :=
            Nat.le_of_lt (increasing.1 row (List.mem_of_getElem? atIndex))
          rw [ih increasing.2 atIndex, if_pos (by simpa using before)]

section Shuffled

variable {order : List Nat} {count : Nat} (shuffle : order.Perm (List.range count))

include shuffle

theorem getElem_lt_of_shuffle {index : Nat} (bound : index < order.length) : order[index] < count :=
  List.mem_range.1 (shuffle.subset (List.getElem_mem bound))

theorem exists_getElem_of_shuffle {row : Nat} (bound : row < count) :
    ∃ index, ∃ inside : index < order.length, order[index] = row :=
  List.mem_iff_getElem.1 (shuffle.symm.subset (List.mem_range.2 bound))

end Shuffled

end TableFlow
