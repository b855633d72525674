import Mathlib
import TableFlow.Number.Basic

/-!
# Finite floats

A float is finite if its exponent field is not the greatest one. An operation on floats
unpacks its arguments, computes with whole mantissas, rounds and packs the result, so the
order of magnitude of the unpacked result decides whether the packed one is finite.

Main statements: the float of a number of 64 bits is finite, negation keeps a float finite,
and dividing by a float of magnitude one or more raises the order of magnitude by at most
one, which is what the rounding may add.

The equations of the operations on unpacked floats come with the whole library only, hence the
import.
-/

namespace TableFlow.Number

open Float.Model (Format UnpackedFloat totalExponent)
open Float.Model.UnpackedFloat

/-- An unpacked float that packs into a finite float. -/
inductive Packable : UnpackedFloat → Prop where
  | zero (sign : Sign) : Packable (.zero sign)
  | finite {sign : Sign} {mantissa : Nat} {exponent : Int} {positive : 0 < mantissa}
      (small : exponent ≤ 971) : Packable (.finite sign mantissa exponent positive)

/-- The exponent field of a float, read off its bits. -/
theorem unpackExponent_toNat (bits : BitVec Format.binary64.numBits) :
    (unpackExponent bits).toNat = bits.toNat / twoTo 52 % twoTo 11 := by
  simp [unpackExponent, twoTo, Nat.shiftRight_eq_div_pow]

/-- The bits of a float, cut as its format cuts them. -/
def packedBits (value : Float) : BitVec Format.binary64.numBits :=
  value.toModel.toBits.toBitVec

/-- A float is finite if its exponent field is not the greatest one. -/
theorem isFinite_iff (value : Float) :
    isFinite value = true ↔ unpackExponent (packedBits value) ≠ -1#11 := by
  have field : (unpackExponent (packedBits value)).toNat =
      value.toBits.toNat / twoTo 52 % twoTo 11 := unpackExponent_toNat _
  have greatest : unpackExponent (packedBits value) = -1#11 ↔
      value.toBits.toNat / twoTo 52 % twoTo 11 = 2047 := by
    rw [← field, ← BitVec.toNat_inj]
    rfl
  rw [Ne, greatest]
  simp only [isFinite, Binary.ofFloat]
  by_cases special : value.toBits.toNat / twoTo 52 % twoTo 11 = 2047
  · by_cases fraction : value.toBits.toNat % twoTo 52 = 0
    · simp [special, fraction]
    · simp [special, fraction]
  · by_cases subnormal : value.toBits.toNat / twoTo 52 % twoTo 11 = 0
    · simp [subnormal]
    · simp [special, subnormal]

/-- A finite float unpacks into what packs into a finite float. -/
theorem packable_unpack {value : Float} (finite : isFinite value = true) :
    Packable value.toModel.unpack := by
  have field := (isFinite_iff value).1 finite
  have small : (unpackExponent (packedBits value)).toNat < 2 ^ 11 := BitVec.isLt _
  have notGreatest : (unpackExponent (packedBits value)).toNat ≠ 2047 := by
    intro same
    exact field (BitVec.toNat_inj.1 same)
  change Packable (unpack Format.binary64 (packedBits value))
  simp only [unpack]
  rw [if_neg field]
  split
  · rename_i subnormal
    split
    · exact .zero _
    · apply Packable.finite
      rw [subnormal]
      decide
  · apply Packable.finite
    simp only [Format.exponentBias]
    omega

/-- What fits into the exponent field packs into a finite float. -/
theorem isFinite_pack {unpacked : UnpackedFloat} (packable : Packable unpacked) :
    isFinite (.ofModel (.pack unpacked)) = true := by
  rw [isFinite_iff]
  change unpackExponent (pack Format.binary64 unpacked) ≠ -1#11
  cases packable with
  | zero sign =>
      simp only [pack, packedZero, unpackExponent_packComponents]
      decide
  | @finite sign mantissa exponent positive small =>
      have fits : (exponent + Format.exponentBias Format.binary64 + 52).toNat + 1 < 2 ^ 11 := by
        simp only [Format.exponentBias]
        omega
      simp only [pack]
      rw [if_neg (by omega)]
      split
      · rw [unpackExponent_packComponents]
        intro same
        have := congrArg BitVec.toNat same
        simp only [BitVec.toNat_ofNat] at this
        rw [Nat.mod_eq_of_lt (by omega)] at this
        have value : (-1#11).toNat = 2047 := rfl
        omega
      · rw [unpackExponent_packComponents]
        decide

/-- Negation keeps a float finite. -/
theorem isFinite_neg {value : Float} (finite : isFinite value = true) :
    isFinite (-value) = true := by
  have packable := packable_unpack finite
  apply isFinite_pack
  generalize value.toModel.unpack = unpacked at packable
  cases packable with
  | zero sign => exact .zero _
  | finite small => exact .finite small

/-! ## Orders of magnitude -/

/-- An unpacked float that is a number of magnitude less than `2 ^ (limit + 1)`. -/
inductive Within (limit : Int) : UnpackedFloat → Prop where
  | zero (sign : Sign) : Within limit (.zero sign)
  | finite {sign : Sign} {mantissa : Nat} {exponent : Int} {positive : 0 < mantissa}
      (small : mantissa.log2 + exponent ≤ limit) :
      Within limit (.finite sign mantissa exponent positive)

theorem Within.mono {lower upper : Int} {unpacked : UnpackedFloat} (below : lower ≤ upper)
    (within : Within lower unpacked) : Within upper unpacked := by
  cases within with
  | zero sign => exact .zero sign
  | finite small => exact .finite (by omega)

/-- Shifting the mantissa to the right divides it by a power of two. -/
theorem shiftRight_mantissa (extended : ExtendedMantissa) (count : Nat) :
    (extended >>> count).mantissa = extended.mantissa / 2 ^ count := by
  change (count.repeat ExtendedMantissa.shiftRightOne extended).mantissa = _
  induction count with
  | zero => simp [Nat.repeat]
  | succ count ih =>
      simp only [Nat.repeat, ExtendedMantissa.shiftRightOne, ih]
      rw [Nat.div_div_eq_div_mul, Nat.pow_succ]

@[simp] theorem ofMantissaAndAccuracy_mantissa (mantissa : Nat) (accuracy : Accuracy) :
    (ExtendedMantissa.ofMantissaAndAccuracy mantissa accuracy).mantissa = mantissa := by
  unfold ExtendedMantissa.ofMantissaAndAccuracy
  split <;> rfl

/-- Rounding a mantissa does not lower it. -/
theorem le_roundToNearestEven (accuracy : Accuracy) (mantissa : Nat) :
    mantissa ≤ accuracy.roundToNearestEven mantissa := by
  unfold Accuracy.roundToNearestEven
  split <;> omega

/-- Rounding a mantissa raises it by at most one. -/
theorem roundToNearestEven_le (accuracy : Accuracy) (mantissa : Nat) :
    accuracy.roundToNearestEven mantissa ≤ mantissa + 1 := by
  unfold Accuracy.roundToNearestEven
  split <;> omega

/-- Dividing by a power of two lowers the binary logarithm accordingly. -/
theorem log2_div_two_pow_add_le {mantissa count : Nat} (positive : 0 < mantissa / 2 ^ count) :
    (mantissa / 2 ^ count).log2 + count ≤ mantissa.log2 := by
  have nonzero : mantissa ≠ 0 := by
    rintro rfl
    simp at positive
  rw [Nat.le_log2 nonzero, Nat.pow_add]
  exact (Nat.le_div_iff_mul_le (Nat.two_pow_pos count)).1 (Nat.log2_self_le (by omega))

/-- Adding one raises the binary logarithm by at most one. -/
theorem log2_le_of_le_succ {rounded mantissa : Nat} (atMost : rounded ≤ mantissa + 1) :
    rounded.log2 ≤ mantissa.log2 + 1 := by
  rcases Nat.eq_zero_or_pos rounded with rfl | positive
  · simp
  · have below : mantissa < 2 ^ (mantissa.log2 + 1) := Nat.lt_log2_self
    have less : rounded.log2 < mantissa.log2 + 2 := by
      rw [Nat.log2_lt (by omega), Nat.pow_succ]
      omega
    omega

/-- Shifting to the exponent that the format asks for keeps the order of magnitude, down to
the least number of the format. -/
theorem log2_shiftToTargetExponent_le {limit exponent : Int} {mantissa : Nat}
    (accuracy : Accuracy) (representable : -1074 ≤ limit)
    (within : mantissa.log2 + exponent ≤ limit) :
    ((shiftToTargetExponent Format.binary64 mantissa exponent accuracy).1.mantissa.log2 : Int) +
      (shiftToTargetExponent Format.binary64 mantissa exponent accuracy).2 ≤ limit := by
  have target : Format.binary64.targetExponent (totalExponent mantissa exponent) ≤ limit := by
    simp only [Format.targetExponent, totalExponent, Format.mantissaBits, Format.minExponent]
    omega
  simp only [shiftToTargetExponent, shiftToExponent, shiftRight_mantissa,
    ofMantissaAndAccuracy_mantissa]
  rcases Nat.eq_zero_or_pos (mantissa / 2 ^
      (Format.binary64.targetExponent (totalExponent mantissa exponent) - exponent).toNat) with
    vanished | positive
  · rw [vanished, Nat.log2_zero]
    omega
  · have := log2_div_two_pow_add_le positive
    omega

/-- Rounding raises the order of magnitude by at most one. -/
theorem within_roundWithAccuracy {limit exponent : Int} {mantissa : Nat} (sign : Sign)
    (accuracy : Accuracy) (representable : -1074 ≤ limit)
    (within : mantissa.log2 + exponent ≤ limit) :
    Within (limit + 1) (roundWithAccuracy Format.binary64 sign mantissa exponent accuracy) := by
  have first := log2_shiftToTargetExponent_le accuracy representable within
  simp only [roundWithAccuracy]
  generalize shiftToTargetExponent Format.binary64 mantissa exponent accuracy = shifted at first ⊢
  have rounded : shifted.1.roundedMantissa.log2 ≤ shifted.1.mantissa.log2 + 1 := by
    exact log2_le_of_le_succ (roundToNearestEven_le _ _)
  have sum : (shifted.1.roundedMantissa.log2 : Int) + shifted.2 ≤ limit + 1 := by omega
  have second := log2_shiftToTargetExponent_le .exact (by omega) sum
  split
  · exact .zero sign
  · exact .finite second

/-- The binary logarithm of a quotient is at most the difference of the logarithms. -/
theorem log2_div_add_le {dividend divisor : Nat} (positive : 0 < dividend / divisor) :
    (dividend / divisor).log2 + divisor.log2 ≤ dividend.log2 := by
  have divisorNonzero : divisor ≠ 0 := by
    rintro rfl
    simp at positive
  have dividendNonzero : dividend ≠ 0 := by
    rintro rfl
    simp at positive
  rw [Nat.le_log2 dividendNonzero, Nat.pow_add]
  calc
    2 ^ (dividend / divisor).log2 * 2 ^ divisor.log2 ≤ dividend / divisor * divisor :=
      Nat.mul_le_mul (Nat.log2_self_le (by omega)) (Nat.log2_self_le divisorNonzero)
    _ ≤ dividend := Nat.div_mul_le_self dividend divisor

/-- Shifting to the left raises the binary logarithm accordingly. -/
theorem log2_shiftLeft_le (mantissa count : Nat) :
    (mantissa <<< count).log2 ≤ mantissa.log2 + count := by
  rcases Nat.eq_zero_or_pos mantissa with rfl | positive
  · simp
  · have shiftedPositive : mantissa <<< count ≠ 0 := by
      rw [Nat.shiftLeft_eq]
      exact Nat.ne_of_gt (Nat.mul_pos positive (Nat.two_pow_pos count))
    have less : (mantissa <<< count).log2 < mantissa.log2 + 1 + count := by
      rw [Nat.log2_lt shiftedPositive, Nat.shiftLeft_eq, Nat.pow_add]
      exact Nat.mul_lt_mul_of_pos_right Nat.lt_log2_self (Nat.two_pow_pos count)
    omega

/-- The order of magnitude of a quotient before it is rounded. -/
theorem log2_divCore_le {limit exponent divisorExponent : Int} {mantissa divisor : Nat}
    (representable : -1074 ≤ limit)
    (within : mantissa.log2 + exponent - (divisor.log2 + divisorExponent) ≤ limit) :
    ((divCore Format.binary64 mantissa exponent divisor divisorExponent).1.log2 : Int) +
      (divCore Format.binary64 mantissa exponent divisor divisorExponent).2.1 ≤ limit := by
  have target : Format.binary64.targetExponent
      (totalExponent mantissa exponent - totalExponent divisor divisorExponent) ≤ limit := by
    simp only [Format.targetExponent, totalExponent, Format.mantissaBits, Format.minExponent]
    omega
  simp only [divCore]
  generalize Format.binary64.targetExponent
    (totalExponent mantissa exponent - totalExponent divisor divisorExponent) = wanted at target ⊢
  rcases Nat.eq_zero_or_pos (mantissa <<<
      (exponent - divisorExponent - min (exponent - divisorExponent) wanted).toNat / divisor) with
    vanished | positive
  · rw [vanished, Nat.log2_zero]
    omega
  · have quotient := log2_div_add_le positive
    have shifted := log2_shiftLeft_le mantissa
      (exponent - divisorExponent - min (exponent - divisorExponent) wanted).toNat
    omega

/-- An unpacked float of magnitude `2 ^ least` or more, possibly infinite. -/
inductive AtLeast (least : Int) : UnpackedFloat → Prop where
  | infinity (sign : Sign) : AtLeast least (.infinity sign)
  | finite {sign : Sign} {mantissa : Nat} {exponent : Int} {positive : 0 < mantissa}
      (large : least ≤ mantissa.log2 + exponent) :
      AtLeast least (.finite sign mantissa exponent positive)

instance (least : Int) : DecidablePred (AtLeast least)
  | .finite _ mantissa exponent _ =>
      decidable_of_iff (least ≤ mantissa.log2 + exponent) ⟨.finite, fun | .finite large => large⟩
  | .infinity sign => isTrue (.infinity sign)
  | .zero _ => isFalse nofun
  | .notANumber => isFalse nofun

theorem AtLeast.mono {lower upper : Int} {unpacked : UnpackedFloat} (below : lower ≤ upper)
    (atLeast : AtLeast upper unpacked) : AtLeast lower unpacked := by
  cases atLeast with
  | infinity sign => exact .infinity sign
  | finite large => exact .finite (by omega)

/-- The order of magnitude of a quotient. -/
theorem within_div {limit least : Int} {dividend divisor : UnpackedFloat}
    (representable : -1074 ≤ limit - least) (within : Within limit dividend)
    (large : AtLeast least divisor) :
    Within (limit - least + 1) (div Format.binary64 dividend divisor) := by
  cases large with
  | infinity sign =>
      cases within with
      | zero sign => exact .zero _
      | finite small => exact .zero _
  | finite large =>
      cases within with
      | zero sign => exact .zero _
      | finite small =>
          exact within_roundWithAccuracy _ _ representable
            (log2_divCore_le representable (by omega))

/-- The binary logarithm of a product. -/
theorem log2_mul_le (left right : Nat) : (left * right).log2 ≤ left.log2 + right.log2 + 1 := by
  rcases Nat.eq_zero_or_pos (left * right) with vanished | positive
  · rw [vanished, Nat.log2_zero]
    omega
  · have less : (left * right).log2 < (left.log2 + 1) + (right.log2 + 1) := by
      rw [Nat.log2_lt (by omega), Nat.pow_add]
      exact Nat.mul_lt_mul'' Nat.lt_log2_self Nat.lt_log2_self
    omega

/-- The order of magnitude of a product. -/
theorem within_mul {leftLimit rightLimit : Int} {left right : UnpackedFloat}
    (representable : -1074 ≤ leftLimit + rightLimit) (leftWithin : Within leftLimit left)
    (rightWithin : Within rightLimit right) :
    Within (leftLimit + rightLimit + 2) (mul Format.binary64 left right) := by
  cases leftWithin with
  | zero sign =>
      cases rightWithin with
      | zero sign => exact .zero _
      | finite small => exact .zero _
  | @finite leftSign leftMantissa leftExponent leftPositive leftSmall =>
      cases rightWithin with
      | zero sign => exact .zero _
      | @finite rightSign rightMantissa rightExponent rightPositive rightSmall =>
          have product := log2_mul_le leftMantissa rightMantissa
          have sum : ((leftMantissa * rightMantissa).log2 : Int) + (leftExponent + rightExponent) ≤
              leftLimit + rightLimit + 1 := by omega
          have rounded := within_roundWithAccuracy (leftSign * rightSign) .exact (by omega) sum
          exact rounded.mono (by omega)

/-- A mantissa with its implicit bit has the width of the format. -/
theorem log2_append_one (mantissa : BitVec 52) : (1#1 ++ mantissa).toNat.log2 = 52 := by
  have least : 2 ^ 52 ≤ (1#1 ++ mantissa).toNat := by
    rw [BitVec.toNat_append]
    exact Nat.left_le_or
  rw [Nat.log2_eq_iff (by omega)]
  exact ⟨least, (1#1 ++ mantissa).isLt⟩

/-- The order of magnitude that an exponent field stands for. -/
theorem within_unpack {limit : Int} (sign : Sign) {exponent : BitVec 11} (mantissa : BitVec 52)
    (below : (exponent.toNat : Int) - 1023 ≤ limit) (notGreatest : exponent ≠ -1#11) :
    Within limit
      (unpack Format.binary64 (packComponents Format.binary64 sign exponent mantissa)) := by
  have bound : mantissa.toNat < 2 ^ 52 := mantissa.isLt
  simp only [unpack, unpackExponent_packComponents, unpackMantissa_packComponents]
  rw [if_neg notGreatest]
  split
  · rename_i subnormal
    have field : exponent.toNat = 0 := congrArg BitVec.toNat subnormal
    clear subnormal notGreatest
    split
    · exact .zero _
    · rename_i nonzero
      have less : mantissa.toNat.log2 < 52 := by
        rw [Nat.log2_lt]
        · exact bound
        · intro vanished
          exact nonzero (BitVec.eq_of_toNat_eq vanished)
      apply Within.finite
      simp only [Format.exponentBias]
      omega
  · have width := log2_append_one mantissa
    apply Within.finite
    simp only [Format.exponentBias]
    omega

/-- Packing a float of moderate magnitude keeps its order of magnitude. -/
theorem within_unpack_pack {limit : Int} {unpacked : UnpackedFloat} (normal : -1022 ≤ limit)
    (small : limit ≤ 971) (within : Within limit unpacked) :
    Within limit (Float.Model.pack unpacked).unpack := by
  change Within limit (unpack Format.binary64 (pack Format.binary64 unpacked))
  have least : ((0#11).toNat : Int) - 1023 ≤ limit := Int.le_trans (by decide) normal
  cases within with
  | zero sign => exact within_unpack sign 0#52 least (by decide)
  | @finite sign mantissa exponent positive moderate =>
      have bias : Format.exponentBias Format.binary64 = 1023 := rfl
      simp only [pack, bias]
      rw [if_neg (by omega)]
      split
      · rename_i width
        have width : mantissa.log2 = 52 := by
          simp only [Format.mantissaBits] at width
          omega
        apply within_unpack
        · simp only [BitVec.toNat_ofNat]
          omega
        · intro same
          have := congrArg BitVec.toNat same
          simp only [BitVec.toNat_ofNat] at this
          have value : (-1#11).toNat = 2047 := rfl
          omega
      · exact within_unpack sign _ least (by decide)

theorem log2_div_two_pow {mantissa count : Nat} (nonzero : mantissa ≠ 0)
    (within : count ≤ mantissa.log2) : (mantissa / 2 ^ count).log2 = mantissa.log2 - count := by
  have least : 2 ^ (mantissa.log2 - count) ≤ mantissa / 2 ^ count := by
    rw [Nat.le_div_iff_mul_le (Nat.two_pow_pos count), ← Nat.pow_add, Nat.sub_add_cancel within]
    exact Nat.log2_self_le nonzero
  have positive : 0 < mantissa / 2 ^ count := Nat.lt_of_lt_of_le (Nat.two_pow_pos _) least
  have upper := log2_div_two_pow_add_le positive
  have lower := (Nat.le_log2 (Nat.ne_of_gt positive)).2 least
  omega

/-- A mantissa with bits to spare is shifted to the width of the format. -/
theorem shiftToTargetExponent_normal {mantissa : Nat} {exponent : Int} (accuracy : Accuracy)
    (wide : 52 ≤ mantissa.log2) (normal : -1022 ≤ mantissa.log2 + exponent) :
    (shiftToTargetExponent Format.binary64 mantissa exponent accuracy).1.mantissa.log2 = 52 ∧
      (shiftToTargetExponent Format.binary64 mantissa exponent accuracy).2 =
        mantissa.log2 + exponent - 52 := by
  have nonzero : mantissa ≠ 0 := by
    rintro rfl
    simp at wide
  have target : Format.binary64.targetExponent (totalExponent mantissa exponent) =
      mantissa.log2 + exponent - 52 := by
    simp only [Format.targetExponent, totalExponent, Format.mantissaBits, Format.minExponent]
    omega
  have count : (mantissa.log2 + exponent - 52 - exponent).toNat = mantissa.log2 - 52 := by omega
  simp only [shiftToTargetExponent, shiftToExponent, shiftRight_mantissa,
    ofMantissaAndAccuracy_mantissa, target, count]
  rw [log2_div_two_pow nonzero (by omega)]
  omega

/-- An unpacked float whose mantissa has the width of the format and whose exponent is at
least `least`. -/
inductive Normal (least : Int) : UnpackedFloat → Prop where
  | finite {sign : Sign} {mantissa : Nat} {exponent : Int} {positive : 0 < mantissa}
      (width : mantissa.log2 = 52) (large : least ≤ exponent) :
      Normal least (.finite sign mantissa exponent positive)

/-- Rounding a wide mantissa gives one of the width of the format. -/
theorem normal_roundWithAccuracy {least exponent : Int} {mantissa : Nat} (sign : Sign)
    (accuracy : Accuracy) (wide : 52 ≤ mantissa.log2) (representable : -1074 ≤ least)
    (large : 52 + least ≤ mantissa.log2 + exponent) :
    Normal least (roundWithAccuracy Format.binary64 sign mantissa exponent accuracy) := by
  have normal : -1022 ≤ mantissa.log2 + exponent := by omega
  obtain ⟨width, start⟩ := shiftToTargetExponent_normal accuracy wide normal
  simp only [roundWithAccuracy]
  generalize shiftToTargetExponent Format.binary64 mantissa exponent accuracy = shifted at *
  have grown : 52 ≤ shifted.1.roundedMantissa.log2 := by
    have least : 2 ^ 52 ≤ shifted.1.roundedMantissa := by
      have nonzero : shifted.1.mantissa ≠ 0 := by
        intro vanished
        simp [vanished] at width
      exact Nat.le_trans ((Nat.le_log2 nonzero).1 (Nat.le_of_eq width.symm))
        (le_roundToNearestEven _ _)
    exact (Nat.le_log2 (by omega)).2 least
  have raised : -1022 ≤ (shifted.1.roundedMantissa.log2 : Int) + shifted.2 := by omega
  obtain ⟨finalWidth, finish⟩ := shiftToTargetExponent_normal .exact grown raised
  split
  · rename_i vanished
    simp [vanished] at finalWidth
  · exact .finite finalWidth (by omega)

/-- Packing a float of full width keeps its magnitude or makes it infinite. -/
theorem atLeast_unpack_pack {least : Int} {unpacked : UnpackedFloat} (representable : -1074 ≤ least)
    (normal : Normal least unpacked) :
    AtLeast (52 + least) (Float.Model.pack unpacked).unpack := by
  change AtLeast (52 + least) (unpack Format.binary64 (pack Format.binary64 unpacked))
  cases normal with
  | @finite sign mantissa exponent positive width large =>
      have bias : Format.exponentBias Format.binary64 = 1023 := rfl
      have full : mantissa.log2 + 1 = Format.binary64.mantissaBits := by
        rw [width]
        rfl
      simp only [pack, bias, if_pos full]
      split
      · simp only [unpack, packedInfinity, unpackExponent_packComponents,
          unpackMantissa_packComponents]
        exact .infinity _
      · rename_i fits
        have field : (BitVec.ofNat 11 (exponent + (1023 : Nat) + (52 : Nat)).toNat).toNat =
            (exponent + 1075).toNat := by
          simp only [BitVec.toNat_ofNat]
          omega
        simp only [unpack, unpackExponent_packComponents, unpackMantissa_packComponents]
        rw [if_neg, if_neg]
        · have implicitBit := log2_append_one (BitVec.ofNat 52 mantissa)
          apply AtLeast.finite
          simp only [bias]
          omega
        · intro zero
          have := congrArg BitVec.toNat zero
          rw [field] at this
          simp at this
          omega
        · intro greatest
          have := congrArg BitVec.toNat greatest
          rw [field] at this
          have value : (-1#11).toNat = 2047 := rfl
          omega

/-- A positive power of ten is of magnitude two or more. -/
theorem atLeast_ofScientific {power : Nat} (positive : 0 < power) :
    AtLeast 1 (Float.Model.ofScientific 1 power).unpack := by
  change AtLeast (52 + -51) (Float.Model.pack (ofScientific Format.binary64 1 power)).unpack
  simp only [ofScientific]
  rw [dif_neg (by decide)]
  split
  · exact .infinity _
  · rw [if_neg (by omega), if_pos (by omega)]
    apply atLeast_unpack_pack (by decide)
    have two : 2 ≤ 10 ^ (power : Int).toNat := by
      rw [Int.toNat_natCast]
      calc
        2 ≤ 10 ^ 1 := by decide
        _ ≤ 10 ^ power := Nat.pow_le_pow_right (by decide) positive
    have large : 54 ≤ (1 <<< Format.binary64.mantissaBits * 10 ^ (power : Int).toNat).log2 := by
      have product : 2 ^ 53 * 2 ≤ 1 <<< Format.binary64.mantissaBits * 10 ^ (power : Int).toNat :=
        Nat.mul_le_mul_left _ two
      rw [Nat.le_log2 (by omega)]
      exact product
    have width : Format.binary64.mantissaBits = 53 := rfl
    exact normal_roundWithAccuracy _ _ (by omega) (by decide) (by omega)

/-! ## Floats -/

/-- Whether a float is a number of magnitude less than `2 ^ (limit + 1)`. -/
def Magnitude (limit : Int) (value : Float) : Prop :=
  Within limit value.toModel.unpack

theorem Magnitude.mono {lower upper : Int} {value : Float} (below : lower ≤ upper)
    (magnitude : Magnitude lower value) : Magnitude upper value :=
  Within.mono below magnitude

theorem Magnitude.isFinite {limit : Int} {value : Float} (magnitude : Magnitude limit value) :
    isFinite value = true := by
  rw [isFinite_iff]
  intro greatest
  have unpacked : value.toModel.unpack = unpack Format.binary64 (packedBits value) := rfl
  rw [Magnitude, unpacked] at magnitude
  simp only [unpack] at magnitude
  rw [if_pos greatest] at magnitude
  split at magnitude <;> cases magnitude

/-- The quotient by a float of magnitude `2 ^ least` or more. -/
theorem Magnitude.div {limit least : Int} {dividend divisor : Float}
    (magnitude : Magnitude limit dividend) (large : AtLeast least divisor.toModel.unpack)
    (normal : -1022 ≤ limit - least) (small : limit - least + 1 ≤ 971) :
    Magnitude (limit - least + 1) (dividend / divisor) :=
  within_unpack_pack (by omega) small (within_div (by omega) magnitude large)

/-- The product of two floats. -/
theorem Magnitude.mul {leftLimit rightLimit : Int} {left right : Float}
    (leftMagnitude : Magnitude leftLimit left) (rightMagnitude : Magnitude rightLimit right)
    (normal : -1022 ≤ leftLimit + rightLimit) (small : leftLimit + rightLimit + 2 ≤ 971) :
    Magnitude (leftLimit + rightLimit + 2) (left * right) :=
  within_unpack_pack (by omega) small (within_mul (by omega) leftMagnitude rightMagnitude)

/-- Rounding a whole number. -/
theorem within_round {limit : Nat} (sign : Sign) {mantissa : Nat} (below : mantissa.log2 ≤ limit) :
    Within (limit + 1) (UnpackedFloat.round Format.binary64 sign mantissa 0) := by
  simp only [UnpackedFloat.round, decreaseExponent]
  have shifted := log2_shiftLeft_le mantissa
    (0 - Format.binary64.targetExponent (totalExponent mantissa 0)).toNat
  exact within_roundWithAccuracy sign .exact (by omega) (by omega)

/-- The float of an integer of 64 bits without a sign. -/
theorem magnitude_toFloat (value : UInt64) : Magnitude 64 value.toFloat := by
  have less : value.toNat.log2 ≤ 63 := by
    rcases Nat.eq_zero_or_pos value.toNat with vanished | positive
    · simp [vanished]
    · have := (Nat.log2_lt (Nat.ne_of_gt positive)).2 value.toNat_lt
      omega
  apply within_unpack_pack (by decide) (by decide)
  simp only [UnpackedFloat.ofUInt64, UnpackedFloat.ofNat, UnpackedFloat.ofInt,
    UnpackedFloat.normalize]
  split
  · exact within_round .negative (by simp)
  · exact .zero _
  · exact within_round .positive less

/-- A whole number of 64 bits, taken as a decimal without a power of ten. -/
theorem within_ofScientific {value : Nat} (below : value < 2 ^ 64) :
    Within 66 (ofScientific Format.binary64 value 0) := by
  simp only [ofScientific]
  split
  · exact .zero _
  · rename_i nonzero
    rw [if_neg (by decide), if_neg (by omega), if_pos (by decide)]
    have less : value.log2 < 64 := (Nat.log2_lt nonzero).2 below
    have shifted := log2_shiftLeft_le value Format.binary64.mantissaBits
    apply Within.mono (show (63 + 0 + 2 : Int) ≤ 66 by decide)
    apply within_mul (by decide)
    · exact .finite (by omega)
    · exact .finite (by decide)

/-- The float of a whole number of 64 bits. -/
theorem magnitude_ofNat {value : Nat} (below : value < 2 ^ 64) :
    Magnitude 66 (Float.ofNat value) := by
  change Magnitude 66 (Float.ofScientific value false 0)
  unfold Float.ofScientific
  split
  · have one : Magnitude 0 Float.exactlyRepresentablePowersOfTen[0] := .finite (by decide)
    exact (magnitude_toFloat _).mul one (by decide) (by decide)
  · exact within_unpack_pack (by decide) (by decide) (within_ofScientific below)

/-- The float of an integer whose absolute value has 64 bits is finite. -/
theorem isFinite_ofInt {value : Int} (below : value.natAbs < 2 ^ 64) :
    isFinite (Float.ofInt value) = true := by
  cases value with
  | ofNat magnitude => exact (magnitude_ofNat below).isFinite
  | negSucc magnitude => exact isFinite_neg (magnitude_ofNat below).isFinite

end TableFlow.Number
