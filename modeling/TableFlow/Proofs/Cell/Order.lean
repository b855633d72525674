import TableFlow.Proofs.Cell.Compare

/-!
# The order of cells of one kind

Seen from the other side the order of two cells is turned around.  Cells of one kind other than
floats all compare, and they compare as the values they hold, which are words, booleans or texts.
So among them "does not come before" passes from cell to cell, and so does "does not come after",
and two of which neither comes before the other are the same.

Main statements: `Cell.compare?_ne_trans` and `Cell.eq_of_compare?_ne`.
-/

namespace TableFlow

/-- Not to stand in a strict order is transitive where the order is total. -/
theorem compare_ne_trans {α : Type} [Ord α] [Std.TransOrd α] {wanted : Ordering}
    (strict : wanted ≠ .eq) {first second third : α} (before : compare first second ≠ wanted)
    (after : compare second third ≠ wanted) : compare first third ≠ wanted := by
  cases wanted with
  | eq => exact absurd rfl strict
  | lt =>
      rw [ne_eq, ← Ordering.isGE_iff_ne_lt] at before after ⊢
      exact Std.TransCmp.isGE_trans before after
  | gt =>
      rw [ne_eq, ← Ordering.isLE_iff_ne_gt] at before after ⊢
      exact Std.TransCmp.isLE_trans before after

namespace Cell

/-- The order of two floats from the other side. -/
theorem compareFloats?_swap (left right : Float) :
    compareFloats? right left = (compareFloats? left right).map Ordering.swap := by
  rw [compareFloats?_eq, compareFloats?_eq, Number.compare_unpacked_swap]

/-- The order of two cells from the other side. -/
theorem compare?_swap (left right : Cell) :
    right.compare? left = (left.compare? right).map Ordering.swap := by
  cases left <;> cases right <;> try rfl
  case integer.integer | boolean.boolean | text.text | timestamp.timestamp =>
    exact congrArg some Std.OrientedCmp.eq_swap
  case integer.float | float.integer | float.float => exact compareFloats?_swap ..

/-- No two cells both come before each other, nor both after each other. -/
theorem compare?_ne_of_eq {wanted : Ordering} (strict : wanted ≠ .eq) {left right : Cell}
    (compared : left.compare? right = some wanted) : right.compare? left ≠ some wanted := by
  rw [compare?_swap, compared, Option.map_some, ne_eq, Option.some.injEq]
  cases wanted with
  | eq => exact absurd rfl strict
  | lt | gt => exact Ordering.noConfusion

/-- Among cells of one kind that is not a float, not to stand in a strict order is transitive. -/
theorem compare?_ne_trans {wanted : Ordering} (strict : wanted ≠ .eq) {kind : Kind}
    (plain : kind ≠ .float) {first second third : Cell} (ofFirst : first.kind? = some kind)
    (ofSecond : second.kind? = some kind) (ofThird : third.kind? = some kind)
    (before : first.compare? second ≠ some wanted) (after : second.compare? third ≠ some wanted) :
    first.compare? third ≠ some wanted := by
  cases first <;> cases ofFirst
  case float => exact absurd rfl plain
  all_goals
    cases second <;> cases ofSecond
    cases third <;> cases ofThird
    simp only [compare?, ne_eq, Option.some.injEq] at before after ⊢
    exact compare_ne_trans strict before after

/-- Cells other than floats compare exactly if they have one kind. -/
theorem isSome_compare?_iff_kind {left right : Cell} (plainLeft : left.kind? ≠ some .float)
    (plainRight : right.kind? ≠ some .float) :
    (left.compare? right).isSome = true ↔ left.kind? = right.kind? ∧ left ≠ .null := by
  cases left <;> cases right <;> simp_all [isSome_compare?_iff, scale?, kind?]

/-- Cells other than floats are in no strict order only if they are the same. -/
theorem compare?_eq_some_eq_iff {left right : Cell} (plainLeft : left.kind? ≠ some .float)
    (plainRight : right.kind? ≠ some .float) :
    left.compare? right = some .eq ↔ left = right ∧ left ≠ .null := by
  cases left <;> cases right <;>
    simp_all [compare?, number?, kind?, Std.LawfulEqCmp.compare_eq_iff_eq, Int64.toInt_inj]

theorem compare?_eq_some_swap_iff {left right : Cell} {ordering : Ordering} :
    right.compare? left = some ordering.swap ↔ left.compare? right = some ordering := by
  rw [compare?_swap left right]
  cases left.compare? right <;> simp

/-- Cells of one kind that is not a float are the same if neither beats the other. -/
theorem eq_of_compare?_ne {wanted : Ordering} (strict : wanted ≠ .eq) {kind : Kind}
    (plain : kind ≠ .float) {left right : Cell} (ofLeft : left.kind? = some kind)
    (ofRight : right.kind? = some kind) (notLeft : left.compare? right ≠ some wanted)
    (notRight : right.compare? left ≠ some wanted) : left = right := by
  have plainLeft : left.kind? ≠ some .float := by simpa [ofLeft] using plain
  have plainRight : right.kind? ≠ some .float := by simpa [ofRight] using plain
  have filled : left ≠ .null := by
    rintro rfl
    cases ofLeft
  obtain ⟨ordering, compared⟩ := Option.isSome_iff_exists.1
    ((isSome_compare?_iff_kind plainLeft plainRight).2 ⟨ofLeft.trans ofRight.symm, filled⟩)
  have swapped := compare?_eq_some_swap_iff.2 compared
  have equal : ordering = .eq := by
    cases wanted <;> cases ordering <;> simp_all
  exact ((compare?_eq_some_eq_iff plainLeft plainRight).1 (equal ▸ compared)).1

end Cell

end TableFlow
