import Mathlib
import TableFlow.Cell.Compare

/-!
# Equal cells

Cells are equal if they have one kind and one value.  The test compares floats by keys made of
their bits; what it decides can be said without bits: two floats are equal if they are the same
number, as both zeros are, or if neither is a number.

Every cell has a representative, which is the same for equal cells and different for others.  So
equality of cells is an equivalence, and lists of cells can be compared by their representatives.

Main statement: `Cell.same_iff_equals`.

The facts on bits of floats come with the whole library only, hence the import.
-/

namespace TableFlow.Cell

/-- The float that stands for all floats equal to it: one zero stands for both. -/
def standardFloat (value : Float) : Float :=
  if value = -0 then 0 else value

/-- The key of a float is the bits of the float that stands for it. -/
theorem floatKey_eq (value : Float) : floatKey value = (standardFloat value).toBits := by
  rw [floatKey, standardFloat]
  split
  · rename_i zero
    obtain ⟨-, -, rfl | ⟨rfl, -⟩ | ⟨rfl, -⟩⟩ := Float.beq_iff_ne_nan_and_eq.1 zero <;> rfl
  · rename_i notZero
    have notNegative : value ≠ -0 := by
      rintro rfl
      exact notZero rfl
    rw [if_neg notNegative]
    split
    · rename_i noNumber
      rw [Float.isNaN_eq_decide_eq_nan, decide_eq_true_eq] at noNumber
      rw [noNumber]
      rfl
    · rfl

theorem floatKey_eq_iff {left right : Float} :
    floatKey left = floatKey right ↔ standardFloat left = standardFloat right := by
  rw [floatKey_eq, floatKey_eq, Float.toBits_inj]

/-- Floats that one float stands for are the same number, or none of them is a number. -/
theorem standardFloat_eq_iff {left right : Float} :
    standardFloat left = standardFloat right ↔
      (left == right) = true ∨ (left.isNaN = true ∧ right.isNaN = true) := by
  have zeros : (0 : Float) ≠ -0 := by decide
  have zero : (0 : Float) ≠ Float.nan := by decide
  have negativeZero : (-0 : Float) ≠ Float.nan := by decide
  rw [Float.beq_iff_ne_nan_and_eq]
  simp only [standardFloat, Float.isNaN_eq_decide_eq_nan, decide_eq_true_eq]
  grind

/-- Equality of cells: one kind and one value, where a float that is no number has the same value as
every other one. -/
inductive Equals : Cell → Cell → Prop where
  | null : Equals .null .null
  | boolean (value : Bool) : Equals (.boolean value) (.boolean value)
  | integer (value : Int64) : Equals (.integer value) (.integer value)
  | float {left right : Float} (equal : (left == right) = true) :
      Equals (.float left) (.float right)
  | notANumber {left right : Float} (leftIs : left.isNaN = true) (rightIs : right.isNaN = true) :
      Equals (.float left) (.float right)
  | text (value : String) : Equals (.text value) (.text value)
  | timestamp (millis : Int64) : Equals (.timestamp millis) (.timestamp millis)

/-- The cell that stands for all cells equal to it. -/
def representative : Cell → Cell
  | .float value => .float (standardFloat value)
  | cell => cell

/-- Cells are the same exactly if one cell stands for both. -/
theorem same_iff_representative {left right : Cell} :
    left.same right = true ↔ left.representative = right.representative := by
  cases left <;> cases right <;> simp [same, representative, floatKey_eq_iff]

/-- The test of cells decides their equality. -/
theorem same_iff_equals {left right : Cell} : left.same right = true ↔ left.Equals right := by
  constructor
  · intro same
    cases left <;> cases right <;> simp only [Cell.same, beq_iff_eq, Bool.false_eq_true] at same
    case null.null => exact .null
    case float.float =>
      rcases standardFloat_eq_iff.1 (floatKey_eq_iff.1 same) with equal | ⟨leftIs, rightIs⟩
      · exact .float equal
      · exact .notANumber leftIs rightIs
    all_goals
      subst same
      constructor
  · intro equals
    cases equals with
    | float equal =>
        simpa [Cell.same] using floatKey_eq_iff.2 (standardFloat_eq_iff.2 (.inl equal))
    | notANumber leftIs rightIs =>
        simpa [Cell.same] using floatKey_eq_iff.2 (standardFloat_eq_iff.2 (.inr ⟨leftIs, rightIs⟩))
    | _ => simp [Cell.same]

instance (left right : Cell) : Decidable (left.Equals right) :=
  decidable_of_iff _ same_iff_equals

theorem equals_iff_representative {left right : Cell} :
    left.Equals right ↔ left.representative = right.representative :=
  same_iff_equals.symm.trans same_iff_representative

theorem equals_self (cell : Cell) : cell.Equals cell :=
  equals_iff_representative.2 rfl

theorem Equals.symm {left right : Cell} (equal : left.Equals right) : right.Equals left :=
  equals_iff_representative.2 (equals_iff_representative.1 equal).symm

theorem Equals.trans {first second third : Cell} (before : first.Equals second)
    (after : second.Equals third) : first.Equals third :=
  equals_iff_representative.2
    ((equals_iff_representative.1 before).trans (equals_iff_representative.1 after))

/-- Cells are hashed alike exactly if they are the same. -/
theorem hashParts_eq_iff {left right : Cell} :
    left.hashParts = right.hashParts ↔ left.same right = true := by
  cases left <;> cases right <;> simp [hashParts, same]

theorem text_equals_iff {left right : String} :
    (Cell.text left).Equals (.text right) ↔ left = right := by
  simp [equals_iff_representative, representative]

end TableFlow.Cell
