import TableFlow.Proofs.Cell.Equality
import TableFlow.Proofs.Cell.Order

/-!
# Equal cells in sums and comparisons

Equal cells are one and the same, except that the two zeros are equal.  So an operation gives equal
results on equal cells if it does on the zeros.  Order, sums, differences, products and remainders
do not tell the zeros apart; a quotient does not tell zero dividends apart.

Main statement: `Cell.Equals.lift`.
-/

namespace TableFlow

open Float.Model (UnpackedFloat)
open Float.Model.UnpackedFloat (Sign)

namespace Cell

/-- Equal cells are the same cell or the two zeros. -/
theorem Equals.eq_or_zeros {left right : Cell} (equal : left.Equals right) :
    left = right ∨ (left = .float 0 ∧ right = .float (-0)) ∨
      (left = .float (-0) ∧ right = .float 0) := by
  cases equal with
  | float same =>
    obtain ⟨-, -, rfl | ⟨rfl, rfl⟩ | ⟨rfl, rfl⟩⟩ := Float.beq_iff_ne_nan_and_eq.1 same
    · exact .inl rfl
    · exact .inr (.inl ⟨rfl, rfl⟩)
    · exact .inr (.inr ⟨rfl, rfl⟩)
  | notANumber leftIs rightIs =>
    rw [Float.isNaN_eq_decide_eq_nan, decide_eq_true_eq] at leftIs rightIs
    rw [leftIs, rightIs]
    exact .inl rfl
  | _ => exact .inl rfl

theorem equals_zeros : (Cell.float 0).Equals (.float (-0)) :=
  .float rfl

/-- What does not tell the zeros apart does not tell equal cells apart. -/
theorem Equals.lift {α : Type} {relation : α → α → Prop} (equivalence : Equivalence relation)
    {left right : Cell} (equal : left.Equals right) (operation : Cell → α)
    (zeros : relation (operation (.float 0)) (operation (.float (-0)))) :
    relation (operation left) (operation right) := by
  obtain rfl | ⟨rfl, rfl⟩ | ⟨rfl, rfl⟩ := equal.eq_or_zeros
  · exact equivalence.refl _
  · exact zeros
  · exact equivalence.symm zeros

theorem Equals.isNull_eq {left right : Cell} (equal : left.Equals right) :
    left.isNull = right.isNull := by
  cases equal <;> rfl

theorem Equals.map_float {left right : Float} (equal : (Cell.float left).Equals (.float right))
    (operation : Float → Float)
    (zeros : (Cell.float (operation 0)).Equals (.float (operation (-0)))) :
    (Cell.float (operation left)).Equals (.float (operation right)) := by
  obtain same | ⟨leftZero, rightZero⟩ | ⟨leftZero, rightZero⟩ := equal.eq_or_zeros
  · cases same
    exact equals_self _
  · cases leftZero
    cases rightZero
    exact zeros
  · cases leftZero
    cases rightZero
    exact zeros.symm

end Cell

namespace Number

/-- Floats that are the same up to the sign of a zero. -/
inductive Alike : UnpackedFloat → UnpackedFloat → Prop where
  | refl (unpacked : UnpackedFloat) : Alike unpacked unpacked
  | zeros (left right : Sign) : Alike (.zero left) (.zero right)

theorem Alike.equals {left right : UnpackedFloat} (alike : Alike left right) :
    (Cell.float (.ofModel (.pack left))).Equals (.float (.ofModel (.pack right))) := by
  cases alike with
  | refl => exact Cell.equals_self _
  | zeros left right => cases left <;> cases right <;> exact .float rfl

/-- Operations that do not tell zeros apart, on either side. -/
structure KeepsZeros (operation : Float → Float → Float) : Prop where
  left (value : Float) : (Cell.float (operation 0 value)).Equals (.float (operation (-0) value))
  right (value : Float) : (Cell.float (operation value 0)).Equals (.float (operation value (-0)))

theorem keepsZeros_of_alike (operation : UnpackedFloat → UnpackedFloat → UnpackedFloat)
    (left : ∀ value, Alike (operation (.zero .positive) value) (operation (.zero .negative) value))
    (right : ∀ value, Alike (operation value (.zero .positive))
      (operation value (.zero .negative))) :
    KeepsZeros fun first second =>
      .ofModel (.pack (operation first.toModel.unpack second.toModel.unpack)) where
  left value := (left value.toModel.unpack).equals
  right value := (right value.toModel.unpack).equals

theorem keepsZeros_add : KeepsZeros (· + ·) := by
  refine keepsZeros_of_alike (.add .binary64) ?_ ?_ <;>
    rintro (_ | _ | ⟨_ | _⟩ | _) <;> constructor

theorem keepsZeros_sub : KeepsZeros (· - ·) := by
  refine keepsZeros_of_alike (.sub .binary64) ?_ ?_ <;>
    rintro (_ | _ | ⟨_ | _⟩ | _) <;> constructor

theorem keepsZeros_mul : KeepsZeros (· * ·) := by
  refine keepsZeros_of_alike (.mul .binary64) ?_ ?_ <;>
    rintro (_ | _ | _ | _) <;> constructor

/-- Zero divisors would give infinities of both signs. -/
theorem equals_div_zeros (divisor : Float) :
    (Cell.float (0 / divisor)).Equals (.float (-0 / divisor)) := by
  have alike (value : UnpackedFloat) :
      Alike (.div .binary64 (.zero .positive) value) (.div .binary64 (.zero .negative) value) := by
    rcases value with _ | _ | _ | _ <;> constructor
  exact (alike divisor.toModel.unpack).equals

theorem equals_remainder_zeros (divisor : Float) :
    (Cell.float (remainder 0 divisor)).Equals (.float (remainder (-0) divisor)) := by
  have zero : Binary.ofFloat 0 = .finite false 0 (-1074) := rfl
  have negativeZero : Binary.ofFloat (-0) = .finite true 0 (-1074) := rfl
  rw [remainder, remainder, zero, negativeZero]
  cases Binary.ofFloat divisor with
  | nan => exact Cell.equals_self _
  | infinite => exact Cell.equals_zeros
  | finite _ mantissa exponent =>
    simp only [Nat.zero_mul, Nat.zero_mod, ofBinary, if_pos]
    split
    · exact Cell.equals_self _
    · exact .float rfl

end Number

namespace Cell

theorem compareFloats?_zeros (value : Float) :
    compareFloats? 0 value = compareFloats? (-0) value := by
  rw [compareFloats?_eq, compareFloats?_eq]
  show UnpackedFloat.compare (.zero .positive) _ = UnpackedFloat.compare (.zero .negative) _
  rcases value.toModel.unpack with ⟨_ | _⟩ | _ | _ | ⟨_ | _⟩ <;> rfl

theorem compare?_zeros_left (cell : Cell) :
    (Cell.float 0).compare? cell = (Cell.float (-0)).compare? cell := by
  cases cell with
  | integer word => exact compareFloats?_zeros _
  | float value => exact compareFloats?_zeros _
  | _ => rfl

theorem compare?_zeros_right (cell : Cell) :
    cell.compare? (.float 0) = cell.compare? (.float (-0)) := by
  rw [compare?_swap (.float 0), compare?_swap (.float (-0)), compare?_zeros_left]

end Cell

end TableFlow
