import Mathlib.Data.List.Pairwise
import TableFlow.Proofs.Sorting.Stable

/-!
# Lists sorted by a comparison

A sort by a fixed comparison asks it some questions and gives the items in another order, if it
comes to an end.  It sees the items through the comparison only.  If the comparison is a total
preorder on the items the sort comes to an end, and no item comes before an earlier one.

A comparison that can fail counts as equality where it does, and the first failure is noted.  If
none is noted, the items have one key whenever items of different keys do not compare: the sort
would have done the same by two orders in which two such items stand the other way round.

Main statements: `PreordersOn.exists_sorted?`, `sortBy_noting` and `key_eq_of_questions`.
-/

namespace TableFlow

open Sorting

variable {α β : Type}

/-- What a sort demands of its comparison on some items. -/
structure PreordersOn (compare : α → α → Ordering) (items : List α) : Prop where
  refl : ∀ item ∈ items, compare item item = .eq
  swap : ∀ left ∈ items, ∀ right ∈ items, compare right left = (compare left right).swap
  trans : ∀ first ∈ items, ∀ second ∈ items, ∀ third ∈ items, compare first second ≠ .gt →
    compare second third ≠ .gt → compare first third ≠ .gt

/-- Whether the item at one position is less than the item at another. -/
def lessAt (order : α → α → Ordering) (items : List α) (left right : Fin items.length) : Bool :=
  order (items.get left) (items.get right) == .lt

/-- The items in the order of a fixed comparison, if the sort comes to an end. -/
def sorted? (order : α → α → Ordering) (items : List α) : Option (List α) :=
  ((stableSort (List.finRange items.length)).value? (lessAt order items)).map fun positions =>
    positions.map items.get

/-- The pairs of items that a sort asks a fixed comparison about. -/
def questions (order : α → α → Ordering) (items : List α) : List (α × α) :=
  ((stableSort (List.finRange items.length)).asked (lessAt order items)).map fun pair =>
    (items.get pair.1, items.get pair.2)

variable {order : α → α → Ordering} {items : List α}

theorem mem_of_mem_questions {pair : α × α} (asked : pair ∈ questions order items) :
    pair.1 ∈ items ∧ pair.2 ∈ items := by
  obtain ⟨positions, -, rfl⟩ := List.mem_map.mp asked
  exact ⟨List.get_mem items positions.1, List.get_mem items positions.2⟩

theorem perm_of_sorted? {sorted : List α} (found : sorted? order items = some sorted) :
    sorted.Perm items := by
  rw [sorted?, Option.map_eq_some_iff] at found
  obtain ⟨positions, computed, rfl⟩ := found
  have kept := (always_stableSort (List.finRange items.length)).of_value? computed
  simpa only [List.map_get_finRange] using kept.map items.get

/-- Up to 20 items are always sorted. -/
theorem exists_sorted?_of_short (order : α → α → Ordering) (short : items.length ≤ 20) :
    ∃ sorted, sorted? order items = some sorted := by
  have gives : (stableSort (List.finRange items.length)).Gives (lessAt order items) fun _ => True :=
    gives_stableSort_of_short (by rwa [List.length_finRange])
  obtain ⟨positions, computed, -⟩ := gives.exists_value?
  exact ⟨positions.map items.get, by rw [sorted?, computed, Option.map_some]⟩

theorem PreordersOn.strictWeak (preorders : PreordersOn order items) :
    StrictWeak (lessAt order items) where
  asymm {left right} isLess := by
    rw [lessAt, beq_iff_eq] at isLess
    rw [lessAt, preorders.swap _ (List.get_mem items left) _ (List.get_mem items right), isLess]
    rfl
  not_lt_trans {first second third} before after := by
    rw [lessAt, beq_eq_false_iff_ne, ne_eq] at before after ⊢
    have inFirst := List.get_mem items first
    have inSecond := List.get_mem items second
    have inThird := List.get_mem items third
    intro less
    have back := preorders.swap _ inFirst _ inThird
    rw [less] at back
    refine preorders.trans _ inThird _ inSecond _ inFirst ?_ ?_ back
    · rw [preorders.swap _ inSecond _ inThird, ne_eq, Ordering.swap_eq_gt]
      exact after
    · rw [preorders.swap _ inFirst _ inSecond, ne_eq, Ordering.swap_eq_gt]
      exact before

/-- By a total preorder the items are sorted. -/
theorem PreordersOn.exists_sorted? (preorders : PreordersOn order items) :
    ∃ sorted, sorted? order items = some sorted ∧
      sorted.Pairwise fun earlier later => order later earlier ≠ .lt := by
  obtain ⟨positions, computed, ordered⟩ :=
    (gives_stableSort preorders.strictWeak (List.finRange items.length)).exists_value?
  refine ⟨positions.map items.get, by rw [sorted?, computed, Option.map_some], ?_⟩
  rw [List.pairwise_map]
  exact ordered.imp fun notLess => by rwa [lessAt, beq_eq_false_iff_ne] at notLess

theorem lessAt_map (order : β → β → Ordering) (image : α → β) (items : List α) :
    lessAt order (items.map image) = fun left right =>
      lessAt (fun left right => order (image left) (image right)) items
        (left.cast (List.length_map image)) (right.cast (List.length_map image)) := by
  funext left right
  simp [lessAt]

theorem value?_cast {count other : Nat} (same : count = other) (lt : Fin other → Fin other → Bool) :
    (stableSort (List.finRange count)).value?
        (fun left right => lt (left.cast same) (right.cast same)) =
      ((stableSort (List.finRange other)).value? lt).map fun positions =>
        positions.map (Fin.cast same.symm) := by
  subst same
  simp

theorem asked_cast {count other : Nat} (same : count = other) (lt : Fin other → Fin other → Bool) :
    (stableSort (List.finRange count)).asked
        (fun left right => lt (left.cast same) (right.cast same)) =
      ((stableSort (List.finRange other)).asked lt).map
        (Prod.map (Fin.cast same.symm) (Fin.cast same.symm)) := by
  subst same
  simp

/-- To sort the images of some items is to sort the items and to take the images. -/
theorem sorted?_map (order : β → β → Ordering) (image : α → β) (items : List α) :
    sorted? order (items.map image) =
      (sorted? (fun left right => order (image left) (image right)) items).map
        (List.map image) := by
  rw [sorted?, lessAt_map, value?_cast (List.length_map image)]
  simp [sorted?, Function.comp_def]

theorem questions_map (order : β → β → Ordering) (image : α → β) (items : List α) :
    questions order (items.map image) =
      (questions (fun left right => order (image left) (image right)) items).map
        (Prod.map image image) := by
  rw [questions, lessAt_map, asked_cast (List.length_map image)]
  simp [questions, Function.comp_def]

/-- Comparisons that agree on what one of them is asked lead to the same list. -/
theorem sorted?_congr {other : α → α → Ordering}
    (agree : ∀ pair ∈ questions order items, other pair.1 pair.2 = order pair.1 pair.2) :
    sorted? other items = sorted? order items := by
  rw [sorted?, sorted?, Comparing.value?_congr]
  intro pair asked
  rw [lessAt, lessAt, agree _ (List.mem_map_of_mem asked)]

section Noting

variable {compare? : α → α → Option Ordering}

/-- The answer of a comparison to a sort that goes on: what does not compare counts as equal. -/
def settled (compare? : α → α → Option Ordering) (left right : α) : Ordering :=
  (compare? left right).getD .eq

/-- Whether a comparison fails on a pair of items. -/
def failsOn (compare? : α → α → Option Ordering) (pair : α × α) : Bool :=
  (compare? pair.1 pair.2).isNone

theorem noting_eq (left right : α) (noted : Option (α × α)) :
    noting compare? left right noted =
      (settled compare? left right,
        noted.or (if failsOn compare? (left, right) then some (left, right) else none)) := by
  rw [noting, settled, failsOn]
  cases compare? left right with
  | none => rfl
  | some ordering => simp

theorem foldl_noting (pairs : List (α × α)) (noted : Option (α × α)) :
    pairs.foldl (fun noted pair => (noting compare? pair.1 pair.2 noted).2) noted =
      noted.or (pairs.find? (failsOn compare?)) := by
  induction pairs generalizing noted with
  | nil => simp
  | cons pair rest ih =>
      rw [List.foldl_cons, ih, noting_eq, Option.or_assoc, List.find?_cons]
      cases failsOn compare? pair <;> simp

/-- A sort by a comparison that can fail is the sort by the settled comparison, and the first
question on which it fails is noted. -/
theorem sortBy_noting (compare? : α → α → Option Ordering) (items : List α) :
    sortBy (noting compare?) items none =
      (sorted? (settled compare?) items,
        (questions (settled compare?) items).find? (failsOn compare?)) := by
  have answers (left right : Fin items.length) (noted : Option (α × α)) :
      (noting compare? (items.get left) (items.get right) noted).1 =
        settled compare? (items.get left) (items.get right) := by rw [noting_eq]
  have noted : (questions (settled compare?) items).foldl
      (fun noted pair => (noting compare? pair.1 pair.2 noted).2) none =
        (questions (settled compare?) items).find? (failsOn compare?) := by
    rw [foldl_noting, Option.none_or]
  rw [← noted, questions, List.foldl_map, sortBy, sortPositions, Comparing.run_eq answers]
  rfl

end Noting

/-- Items by their keys first, then by a comparison. -/
def byKey (key : α → Int) (order : α → α → Ordering) (left right : α) : Ordering :=
  (compare (key left) (key right)).then (order left right)

section Keys

variable {key : α → Int} {left right : α}

theorem byKey_of_eq (same : key left = key right) :
    byKey key order left right = order left right := by
  rw [byKey, same, Int.compare_eq_eq.mpr rfl, Ordering.then]

theorem byKey_of_lt (less : key left < key right) : byKey key order left right = .lt := by
  rw [byKey, Int.compare_eq_lt.mpr less]
  rfl

theorem byKey_of_gt (greater : key right < key left) : byKey key order left right = .gt := by
  rw [byKey, Int.compare_eq_gt.mpr greater]
  rfl

theorem byKey_ne_gt_iff :
    byKey key order left right ≠ .gt ↔
      key left < key right ∨ key left = key right ∧ order left right ≠ .gt := by
  rcases Int.lt_trichotomy (key left) (key right) with less | same | greater
  · simp [byKey_of_lt less, less]
  · simp [byKey_of_eq same, same]
  · simp only [byKey_of_gt greater, ne_eq, not_true_eq_false, false_iff]
    omega

/-- A comparison that is a preorder on the items of each key is one after the keys. -/
theorem preordersOn_byKey
    (within : ∀ value, PreordersOn order (items.filter fun item => key item = value)) :
    PreordersOn (byKey key order) items := by
  have inside {item other : α} (member : item ∈ items) (same : key item = key other) :
      item ∈ items.filter fun item => key item = key other := by simp [member, same]
  refine ⟨?_, ?_, ?_⟩
  · intro item member
    rw [byKey_of_eq rfl, (within _).refl item (inside member rfl)]
  · intro left inLeft right inRight
    rcases Int.lt_trichotomy (key left) (key right) with less | same | greater
    · rw [byKey_of_lt less, byKey_of_gt less, Ordering.swap_lt]
    · rw [byKey_of_eq same, byKey_of_eq same.symm,
        (within _).swap left (inside inLeft same) right (inside inRight rfl)]
    · rw [byKey_of_gt greater, byKey_of_lt greater, Ordering.swap_gt]
  · intro first inFirst second inSecond third inThird before after
    rw [byKey_ne_gt_iff] at before after ⊢
    rcases before with before | ⟨sameFirst, before⟩ <;>
      rcases after with after | ⟨sameSecond, after⟩
    · exact .inl (by omega)
    · exact .inl (by omega)
    · exact .inl (by omega)
    · refine .inr ⟨sameFirst.trans sameSecond, ?_⟩
      exact (within (key third)).trans first (inside inFirst (sameFirst.trans sameSecond)) second
        (inside inSecond sameSecond) third (inside inThird rfl) before after

/-- If all questions are about items of one key, all items have one key. -/
theorem key_eq_of_questions
    (within : ∀ value, PreordersOn order (items.filter fun item => key item = value))
    (alike : ∀ pair ∈ questions order items, key pair.1 = key pair.2) :
    ∀ left ∈ items, ∀ right ∈ items, key left = key right := by
  -- the same list is in order by the keys, and by the keys the other way round
  have opposite (value : Int) :
      PreordersOn order (items.filter fun item => -key item = value) := by
    have same (item : α) : -key item = value ↔ key item = -value := by omega
    simpa only [same] using within (-value)
  have oppositeAlike : ∀ pair ∈ questions order items, -key pair.1 = -key pair.2 :=
    fun pair asked => congrArg Neg.neg (alike pair asked)
  obtain ⟨sorted, found, ordered⟩ := (preordersOn_byKey within).exists_sorted?
  obtain ⟨other, foundOther, orderedOther⟩ := (preordersOn_byKey opposite).exists_sorted?
  rw [sorted?_congr fun pair asked => byKey_of_eq (alike pair asked)] at found
  rw [sorted?_congr fun pair asked => byKey_of_eq (oppositeAlike pair asked), found,
    Option.some.injEq] at foundOther
  subst foundOther
  have together : sorted.Pairwise fun earlier later => key earlier = key later := by
    refine (ordered.and orderedOther).imp ?_
    rintro earlier later ⟨notLess, notGreater⟩
    by_contra different
    rcases Int.lt_or_gt_of_ne different with less | greater
    · exact notGreater (byKey_of_lt (by omega))
    · exact notLess (byKey_of_lt greater)
  have : Std.Symm fun earlier later => key earlier = key later := ⟨fun _ _ same => same.symm⟩
  have everywhere :=
    List.Pairwise.forall_of_forall (R := fun earlier later => key earlier = key later)
      (fun _ _ => rfl) together
  have kept := perm_of_sorted? found
  intro left inLeft right inRight
  exact everywhere (kept.mem_iff.mpr inLeft) (kept.mem_iff.mpr inRight)

end Keys

end TableFlow
