import TableFlow.Cell.Compare
import TableFlow.Proofs.Number.Finite

/-!
# Which cells compare

Two cells compare exactly if they lie on one scale.  Booleans, texts and timestamps have a scale
each.  Integers and floats share one, to which a float that is no number does not belong, and an
empty cell lies on none.  So cells that compare with one cell compare with each other.

Main statement: `Cell.isSome_compare?_iff`.
-/

namespace TableFlow

open Float.Model (UnpackedFloat)

namespace Number

theorem compare_unpacked_swap (left right : UnpackedFloat) :
    right.compare left = (left.compare right).map Ordering.swap := by
  rcases left with ⟨_ | _⟩ | _ | ⟨_ | _⟩ | ⟨_ | _, mantissa, exponent, _⟩ <;>
    rcases right with ⟨_ | _⟩ | _ | ⟨_ | _⟩ | ⟨_ | _, otherMantissa, otherExponent, _⟩ <;>
    try rfl
  -- The constructors decide all pairs but two finite floats of one sign.
  all_goals
    simp only [UnpackedFloat.compare, Option.map_some, Ordering.swap_then,
      ← Int.compare_swap exponent, ← Nat.compare_swap mantissa]

theorem isSome_compare_unpacked_iff (left right : UnpackedFloat) :
    (left.compare right).isSome = true ↔ left.isNaN = false ∧ right.isNaN = false := by
  rcases left with ⟨_ | _⟩ | _ | ⟨_ | _⟩ | ⟨_ | _⟩ <;>
    rcases right with ⟨_ | _⟩ | _ | ⟨_ | _⟩ | ⟨_ | _⟩ <;>
    simp [UnpackedFloat.compare, UnpackedFloat.isNaN]

end Number

namespace Cell

/-- The three comparisons of floats give the order of their unpacked forms. -/
theorem compareFloats?_eq (left right : Float) :
    compareFloats? left right = left.toModel.unpack.compare right.toModel.unpack := by
  have less (first second : Float) :
      first < second ↔ first.toModel.unpack.compare second.toModel.unpack = some .lt :=
    decide_eq_true_iff.trans beq_iff_eq
  have equal : (left == right) =
      (left.toModel.unpack.compare right.toModel.unpack == some .eq) := rfl
  rw [compareFloats?]
  simp only [less, equal, Number.compare_unpacked_swap left.toModel.unpack right.toModel.unpack]
  cases left.toModel.unpack.compare right.toModel.unpack with
  | none => rfl
  | some ordering => cases ordering <;> rfl

theorem isSome_compareFloats?_iff (left right : Float) :
    (compareFloats? left right).isSome = true ↔ left.isNaN = false ∧ right.isNaN = false := by
  rw [compareFloats?_eq]
  exact Number.isSome_compare_unpacked_iff _ _

/-- The float of a word is a number. -/
theorem isNaN_floatOf (value : Int64) : (floatOf value).isNaN = false := by
  have finite : Number.isFinite (floatOf value) = true := by
    have lower := value.le_toInt
    have upper := value.toInt_lt
    apply Number.isFinite_ofInt
    omega
  have packable := Number.packable_unpack finite
  change (floatOf value).toModel.unpack.isNaN = false
  generalize (floatOf value).toModel.unpack = unpacked at packable ⊢
  cases packable with
  | zero sign => rfl
  | finite small => rfl

@[simp] theorem compare?_null_left (cell : Cell) : Cell.compare? .null cell = none := by
  cases cell <;> rfl

@[simp] theorem compare?_null_right (cell : Cell) : cell.compare? .null = none := by
  cases cell <;> rfl

theorem isNull_eq_true_iff {cell : Cell} : cell.isNull = true ↔ cell = .null := by
  cases cell <;> simp [isNull]

theorem isNull_eq_false_iff {cell : Cell} : cell.isNull = false ↔ cell ≠ .null := by
  cases cell <;> simp [isNull]

/-- The scale on which a cell can be compared. -/
def scale? : Cell → Option Kind
  | .null => none
  | .boolean _ => some .boolean
  | .integer _ => some .float
  | .float value => if value.isNaN then none else some .float
  | .text _ => some .text
  | .timestamp _ => some .timestamp

/-- Cells compare exactly if they lie on one scale. -/
theorem isSome_compare?_iff (left right : Cell) :
    (left.compare? right).isSome = true ↔ left.scale? = right.scale? ∧ left.scale? ≠ none := by
  cases left <;> cases right <;>
    simp only [compare?, number?, scale?, isSome_compareFloats?_iff, isNaN_floatOf] <;> grind

theorem isSome_compare?_comm (left right : Cell) :
    (left.compare? right).isSome = (right.compare? left).isSome := by
  rw [Bool.eq_iff_iff, isSome_compare?_iff, isSome_compare?_iff]
  grind

/-- Cells that compare with one cell compare with each other. -/
theorem isSome_compare?_of_common {cell left right : Cell}
    (withLeft : (cell.compare? left).isSome = true)
    (withRight : (cell.compare? right).isSome = true) :
    (left.compare? right).isSome = true := by
  rw [isSome_compare?_iff] at withLeft withRight ⊢
  rw [← withLeft.1]
  exact withRight

end Cell

end TableFlow
