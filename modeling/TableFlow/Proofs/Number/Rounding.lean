import TableFlow.Number.Reader
import TableFlow.Proofs.Number.Finite

/-!
# Rounding of whole numbers

A whole number of more than 53 binary digits is rounded when it becomes a float.  It is cut behind
its first 53 digits, and two bits tell what was cut off: whether it is half a unit or more, and
whether there is anything beside that half.  So the result is the nearest multiple of the unit, and
the even one of two.  The float that is packed and unpacked again is the same one, or an infinity
beyond the range of floats.

Main statements: `roundWithAccuracy_exact`, which says what rounding does to any mantissa of full
width, and `truncate?_nearestFloat`, which says what is left of a large whole number that was read
as a float.
-/

namespace TableFlow.Number

open Float.Model (Format UnpackedFloat totalExponent)
open Float.Model.UnpackedFloat

/-- The sign of an unpacked float. -/
def signOf (negative : Bool) : Sign :=
  if negative then .negative else .positive

theorem signOf_inj {left right : Bool} (same : signOf left = signOf right) : left = right := by
  cases left <;> cases right <;> simp [signOf] at same ⊢

theorem unpackMantissa_toNat (bits : BitVec Format.binary64.numBits) :
    (unpackMantissa bits).toNat = bits.toNat % twoTo 52 := by
  simp [unpackMantissa, twoTo]

theorem ofBitVec_unpackSign (bits : BitVec Format.binary64.numBits) :
    Sign.ofBitVec (unpackSign bits) = signOf (decide (twoTo 63 ≤ bits.toNat)) := by
  have small : bits.toNat < 2 ^ 64 := bits.isLt
  have field : (unpackSign bits).toNat = bits.toNat / 2 ^ 63 := by
    simp only [unpackSign, BitVec.toNat_cast, BitVec.extractLsb_toNat, Nat.shiftRight_eq_div_pow]
    omega
  have zero : unpackSign bits = 0#1 ↔ ¬ twoTo 63 ≤ bits.toNat := by
    have two : twoTo 63 = 2 ^ 63 := rfl
    rw [← BitVec.toNat_inj, field, two]
    simp
  by_cases minus : twoTo 63 ≤ bits.toNat <;> simp [Sign.ofBitVec, signOf, zero, minus]

theorem append_one_toNat (mantissa : BitVec 52) :
    (1#1 ++ mantissa).toNat = mantissa.toNat + twoTo 52 := by
  have small : mantissa.toNat < 2 ^ 52 := mantissa.isLt
  rw [BitVec.toNat_append, ← Nat.shiftLeft_add_eq_or_of_lt small, Nat.add_comm]
  rfl

/-- A float read field by field, as its format cuts the bits. -/
theorem ofFloat_eq (value : Float) {negative : Bool}
    (sign : Sign.ofBitVec (unpackSign (packedBits value)) = signOf negative) :
    Binary.ofFloat value =
      if unpackExponent (packedBits value) = -1#11 then
        if unpackMantissa (packedBits value) = 0#52 then .infinite negative else .nan
      else if unpackExponent (packedBits value) = 0#11 then
        .finite negative (unpackMantissa (packedBits value)).toNat (-1074)
      else
        .finite negative (1#1 ++ unpackMantissa (packedBits value)).toNat
          ((unpackExponent (packedBits value)).toNat - 1075) := by
  have exponentField : (unpackExponent (packedBits value)).toNat =
      value.toBits.toNat / twoTo 52 % twoTo 11 := unpackExponent_toNat _
  have mantissaField : (unpackMantissa (packedBits value)).toNat = value.toBits.toNat % twoTo 52 :=
    unpackMantissa_toNat _
  have signField : negative = decide (twoTo 63 ≤ value.toBits.toNat) :=
    signOf_inj (sign.symm.trans (ofBitVec_unpackSign _))
  simp only [← BitVec.toNat_inj, append_one_toNat, exponentField, mantissaField, signField]
  rfl

section Unpacked

variable {value : Float} {negative : Bool} {mantissa : Nat} {exponent : Int}
  {positive : 0 < mantissa}

theorem ofFloat_of_finite
    (unpacked : value.toModel.unpack = .finite (signOf negative) mantissa exponent positive) :
    Binary.ofFloat value = .finite negative mantissa exponent := by
  change unpack Format.binary64 (packedBits value) = _ at unpacked
  simp only [unpack] at unpacked
  split at unpacked
  · split at unpacked <;> cases unpacked
  · rename_i special
    split at unpacked
    · rename_i subnormal
      split at unpacked
      · cases unpacked
      · simp only [finite.injEq] at unpacked
        obtain ⟨sign, rfl, rfl⟩ := unpacked
        rw [ofFloat_eq value sign, if_neg special, if_pos subnormal, subnormal]
        rfl
    · rename_i normal
      simp only [finite.injEq] at unpacked
      obtain ⟨sign, rfl, rfl⟩ := unpacked
      rw [ofFloat_eq value sign, if_neg special, if_neg normal]
      rfl

theorem ofFloat_of_infinity (unpacked : value.toModel.unpack = .infinity (signOf negative)) :
    Binary.ofFloat value = .infinite negative := by
  change unpack Format.binary64 (packedBits value) = _ at unpacked
  simp only [unpack] at unpacked
  split at unpacked
  · rename_i special
    split at unpacked
    · rename_i bare
      rw [ofFloat_eq value (infinity.inj unpacked), if_pos special, if_pos bare]
    · cases unpacked
  · split at unpacked
    · split at unpacked <;> cases unpacked
    · cases unpacked

/-- A float of full width is unpacked as it was packed. -/
theorem unpack_pack_of_normal (width : mantissa.log2 = 52) (least : -1074 ≤ exponent)
    (greatest : exponent ≤ 971) (sign : Sign) :
    (Float.Model.pack (.finite sign mantissa exponent positive)).unpack =
      .finite sign mantissa exponent positive := by
  change unpack Format.binary64 (pack Format.binary64 _) = _
  have bias : Format.exponentBias Format.binary64 = 1023 := rfl
  have full : mantissa.log2 + 1 = Format.binary64.mantissaBits := by
    rw [width]
    rfl
  have field : (BitVec.ofNat 11 (exponent + (1023 : Nat) + (52 : Nat)).toNat).toNat =
      (exponent + 1075).toNat := by
    simp only [BitVec.toNat_ofNat]
    omega
  simp only [pack, bias, if_pos full]
  rw [if_neg (by omega)]
  simp only [unpack, unpackExponent_packComponents, unpackMantissa_packComponents,
    unpackSign_packComponents, Sign.ofBitVec_toBitVec, ← BitVec.toNat_inj, field, bias]
  rw [if_neg, if_neg]
  · obtain ⟨low, high⟩ := (Nat.log2_eq_iff (Nat.ne_of_gt positive)).1 width
    simp only [finite.injEq, append_one_toNat, BitVec.toNat_ofNat, twoTo, true_and]
    constructor
    · change mantissa % 2 ^ 52 + 2 ^ 52 = mantissa
      omega
    · omega
  · change (exponent + 1075).toNat ≠ 0
    omega
  · change (exponent + 1075).toNat ≠ 2047
    omega

theorem unpack_pack_of_large (large : 971 < exponent) (sign : Sign) :
    (Float.Model.pack (.finite sign mantissa exponent positive)).unpack = .infinity sign := by
  change unpack Format.binary64 (pack Format.binary64 _) = _
  have bias : Format.exponentBias Format.binary64 = 1023 := rfl
  simp only [pack, bias]
  rw [if_pos (by omega)]
  simp only [unpack, packedInfinity, unpackExponent_packComponents, unpackMantissa_packComponents,
    unpackSign_packComponents, Sign.ofBitVec_toBitVec]
  rfl

end Unpacked

/-- The quotient of two numbers rounded to the nearest whole number, and to the even one of two. -/
def nearestQuotient (value grain : Nat) : Nat :=
  if 2 * (value % grain) < grain then value / grain
  else if 2 * (value % grain) = grain then value / grain + value / grain % 2
  else value / grain + 1

theorem nearestQuotient_mul_right {factor : Nat} (positive : 0 < factor) (value grain : Nat) :
    nearestQuotient (value * factor) (grain * factor) = nearestQuotient value grain := by
  have less : 2 * (value % grain * factor) < grain * factor ↔ 2 * (value % grain) < grain := by
    rw [← Nat.mul_assoc]
    exact Nat.mul_lt_mul_right positive
  have same : 2 * (value % grain * factor) = grain * factor ↔ 2 * (value % grain) = grain := by
    rw [← Nat.mul_assoc]
    exact Nat.mul_left_inj (Nat.ne_of_gt positive)
  simp only [nearestQuotient, Nat.mul_mod_mul_right, Nat.mul_div_mul_right _ _ positive, less, same]

theorem div_le_nearestQuotient (value grain : Nat) :
    value / grain ≤ nearestQuotient value grain := by
  unfold nearestQuotient
  split
  · exact Nat.le_refl _
  · split <;> omega

theorem nearestQuotient_le (value grain : Nat) :
    nearestQuotient value grain ≤ value / grain + 1 := by
  unfold nearestQuotient
  split
  · omega
  · split <;> omega

/-! ## Cutting a mantissa -/

/-- The bits that a whole number leaves behind when it is shifted to the right: the first one tells
whether they make up half or more, the other one whether anything is left beside that. -/
theorem shiftRight_exact (value count : Nat) :
    ExtendedMantissa.ofMantissaAndAccuracy value .exact >>> count =
      ⟨value / 2 ^ count, decide (2 ^ count ≤ 2 * (value % 2 ^ count)),
        decide (2 * value % 2 ^ count ≠ 0)⟩ := by
  change count.repeat ExtendedMantissa.shiftRightOne _ = _
  induction count with
  | zero => simp [Nat.repeat, ExtendedMantissa.ofMantissaAndAccuracy, Nat.mod_one]
  | succ count ih =>
      have below : value % 2 ^ count < 2 ^ count := Nat.mod_lt value (Nat.two_pow_pos count)
      have rest :
          value % 2 ^ (count + 1) = value % 2 ^ count + 2 ^ count * (value / 2 ^ count % 2) :=
        Nat.mod_pow_succ
      have double : 2 * value % 2 ^ (count + 1) = 2 * (value % 2 ^ count) := by
        rw [Nat.pow_succ', Nat.mul_mod_mul_left]
      simp only [Nat.repeat, ih, ExtendedMantissa.shiftRightOne, ExtendedMantissa.mk.injEq]
      refine ⟨?_, ?_, ?_⟩
      · rw [Nat.div_div_eq_div_mul, Nat.pow_succ]
      · rw [rest, Nat.pow_succ']
        rcases Nat.mod_two_eq_zero_or_one (value / 2 ^ count) with even | odd
        · simp [even, below]
        · simp [odd]
      · rw [double, ← Nat.mul_mod_mod]
        by_cases half : 2 ^ count ≤ 2 * (value % 2 ^ count)
        · have some : value % 2 ^ count ≠ 0 := by omega
          simp [half, some]
        · simp [half, Nat.mod_eq_of_lt (Nat.lt_of_not_le half)]

theorem roundedMantissa_mk (mantissa : Nat) (half rest : Bool) :
    (ExtendedMantissa.mk mantissa half rest).roundedMantissa =
      if half = false then mantissa
      else if rest = false then mantissa + mantissa % 2
      else mantissa + 1 := by
  cases half <;> cases rest <;> rfl

theorem roundedMantissa_shiftRight (value count : Nat) :
    (ExtendedMantissa.ofMantissaAndAccuracy value .exact >>> count).roundedMantissa =
      nearestQuotient value (2 ^ count) := by
  have below : value % 2 ^ count < 2 ^ count := Nat.mod_lt value (Nat.two_pow_pos count)
  rw [shiftRight_exact, roundedMantissa_mk, ← Nat.mul_mod_mod, nearestQuotient]
  simp only [decide_eq_false_iff_not, Nat.not_le, ne_eq, Decidable.not_not]
  split
  · rfl
  · rename_i half
    have beyond : 2 * (value % 2 ^ count) % 2 ^ count = 2 * (value % 2 ^ count) - 2 ^ count := by
      rw [Nat.mod_eq_sub_mod (Nat.le_of_not_lt half), Nat.mod_eq_of_lt (by omega)]
    have exactly :
        2 * (value % 2 ^ count) - 2 ^ count = 0 ↔ 2 * (value % 2 ^ count) = 2 ^ count := by
      omega
    simp only [beyond, exactly]

section Rounding

variable {mantissa : Nat} {exponent : Int}

theorem ne_zero_of_wide (wide : 52 ≤ mantissa.log2) : mantissa ≠ 0 := by
  rintro rfl
  simp at wide

/-- What is cut to its first 53 binary digits has full width. -/
theorem log2_div_of_wide (wide : 52 ≤ mantissa.log2) :
    (mantissa / 2 ^ (mantissa.log2 - 52)).log2 = 52 := by
  rw [log2_div_two_pow (ne_zero_of_wide wide) (Nat.sub_le mantissa.log2 52), Nat.sub_sub_self wide]

theorem shiftToTargetExponent_exact (wide : 52 ≤ mantissa.log2)
    (normal : -1022 ≤ mantissa.log2 + exponent) :
    shiftToTargetExponent Format.binary64 mantissa exponent .exact =
      (ExtendedMantissa.ofMantissaAndAccuracy mantissa .exact >>> (mantissa.log2 - 52),
        mantissa.log2 + exponent - 52) := by
  have target : Format.binary64.targetExponent (totalExponent mantissa exponent) =
      mantissa.log2 + exponent - 52 := by
    simp only [Format.targetExponent, totalExponent, Format.mantissaBits, Format.minExponent]
    omega
  have count : (mantissa.log2 + exponent - 52 - exponent).toNat = mantissa.log2 - 52 := by omega
  simp only [shiftToTargetExponent, shiftToExponent, target, count, Prod.mk.injEq, true_and]
  omega

/-- The quotient that leaves full width is at most one too large for it. -/
theorem nearestQuotient_bounds (wide : 52 ≤ mantissa.log2) :
    2 ^ 52 ≤ nearestQuotient mantissa (2 ^ (mantissa.log2 - 52)) ∧
      nearestQuotient mantissa (2 ^ (mantissa.log2 - 52)) ≤ 2 ^ 53 := by
  have width := log2_div_of_wide wide
  obtain ⟨least, greatest⟩ := (Nat.log2_eq_iff (ne_zero_of_wide (Nat.le_of_eq width.symm))).1 width
  have lower := div_le_nearestQuotient mantissa (2 ^ (mantissa.log2 - 52))
  have upper := nearestQuotient_le mantissa (2 ^ (mantissa.log2 - 52))
  omega

/-- What is at most one too large for full width loses nothing when it is brought to it. -/
theorem div_mul_two_pow {value : Nat} (least : 2 ^ 52 ≤ value) (greatest : value ≤ 2 ^ 53) :
    value / 2 ^ (value.log2 - 52) * 2 ^ (value.log2 - 52) = value := by
  rcases Nat.lt_or_eq_of_le greatest with below | rfl
  · have width : value.log2 = 52 := (Nat.log2_eq_iff (by omega)).2 ⟨least, below⟩
    simp [width]
  · rw [Nat.log2_two_pow]
    norm_num

/-- Rounding gives a float of full width that is nearest to the exact value. -/
theorem roundWithAccuracy_exact (wide : 52 ≤ mantissa.log2)
    (normal : -1022 ≤ mantissa.log2 + exponent) (sign : Sign) :
    ∃ (rounded raise : Nat) (positive : 0 < rounded),
      roundWithAccuracy Format.binary64 sign mantissa exponent .exact =
          .finite sign rounded (mantissa.log2 + exponent - 52 + raise) positive ∧
        rounded.log2 = 52 ∧
        rounded * 2 ^ raise = nearestQuotient mantissa (2 ^ (mantissa.log2 - 52)) := by
  obtain ⟨least, greatest⟩ := nearestQuotient_bounds wide
  generalize shape :
    nearestQuotient mantissa (2 ^ (mantissa.log2 - 52)) = quotient at least greatest ⊢
  simp only [roundWithAccuracy, shiftToTargetExponent_exact wide normal, roundedMantissa_shiftRight,
    shape]
  have grown : 52 ≤ quotient.log2 := (Nat.le_log2 (by omega)).2 least
  have width := log2_div_of_wide grown
  have stays : -1022 ≤ (quotient.log2 : Int) + (mantissa.log2 + exponent - 52) := by omega
  have second := shiftToTargetExponent_exact grown stays
  simp only [second, shiftRight_mantissa, ofMantissaAndAccuracy_mantissa]
  split
  · rename_i vanished
    exact absurd vanished (ne_zero_of_wide (Nat.le_of_eq width.symm))
  · rename_i nonzero
    refine ⟨quotient / 2 ^ (quotient.log2 - 52), quotient.log2 - 52, Nat.pos_of_ne_zero nonzero, ?_,
      width, div_mul_two_pow least greatest⟩
    simp only [finite.injEq, true_and]
    omega

end Rounding

/-- The whole number nearest to a whole number among those with 53 binary digits. -/
def roundWhole (value : Nat) : Nat :=
  nearestQuotient value (2 ^ (value.log2 - 52)) * 2 ^ (value.log2 - 52)

theorem log2_mul_two_pow {value : Nat} (nonzero : value ≠ 0) (count : Nat) :
    (value * 2 ^ count).log2 = value.log2 + count := by
  have positive : value * 2 ^ count ≠ 0 := Nat.mul_ne_zero nonzero (Nat.two_pow_pos count).ne'
  rw [Nat.log2_eq_iff positive, Nat.add_right_comm, Nat.pow_add, Nat.pow_add]
  exact ⟨Nat.mul_le_mul_right _ (Nat.log2_self_le nonzero),
    Nat.mul_lt_mul_of_pos_right Nat.lt_log2_self (Nat.two_pow_pos count)⟩

theorem ofScientific_eq_round {value : Nat} (nonzero : value ≠ 0) :
    ofScientific Format.binary64 value 0 =
      roundWithAccuracy Format.binary64 .positive (value * 2 ^ 53) (-53) .exact := by
  simp only [ofScientific]
  rw [dif_neg nonzero, if_neg (by decide), if_neg (by omega), if_pos (by decide)]
  have product :
      value <<< Format.binary64.mantissaBits * 10 ^ (0 : Int).toNat = value * 2 ^ 53 := by
    rw [Nat.shiftLeft_eq]
    exact Nat.mul_one _
  rw [← product]
  rfl

theorem ofScientific_whole {value : Nat} (wide : 52 ≤ value.log2) :
    ∃ (mantissa exponent : Nat) (positive : 0 < mantissa),
      ofScientific Format.binary64 value 0 = .finite .positive mantissa exponent positive ∧
        mantissa.log2 = 52 ∧ mantissa * 2 ^ exponent = roundWhole value := by
  have nonzero := ne_zero_of_wide wide
  have log := log2_mul_two_pow nonzero 53
  have shiftedWide : 52 ≤ (value * 2 ^ 53).log2 := by omega
  have shiftedNormal : -1022 ≤ ((value * 2 ^ 53).log2 : Int) + -53 := by omega
  obtain ⟨rounded, raise, positive, shape, width, nearest⟩ :=
    roundWithAccuracy_exact shiftedWide shiftedNormal .positive
  have grain : 2 ^ (value.log2 + 53 - 52) = 2 ^ (value.log2 - 52) * 2 ^ 53 := by
    rw [← Nat.pow_add, Nat.sub_add_comm wide]
  rw [log, grain, nearestQuotient_mul_right (Nat.two_pow_pos 53)] at nearest
  refine ⟨rounded, value.log2 - 52 + raise, positive, ?_, width, ?_⟩
  · rw [ofScientific_eq_round nonzero, shape]
    simp only [finite.injEq, true_and]
    omega
  · rw [roundWhole, ← nearest, Nat.pow_add, Nat.mul_assoc, Nat.mul_comm (2 ^ raise)]

/-- Rounding does not go below a power of two. -/
theorem two_pow_log2_le_roundWhole {value : Nat} (wide : 52 ≤ value.log2) :
    2 ^ value.log2 ≤ roundWhole value := by
  calc
    2 ^ value.log2 = 2 ^ 52 * 2 ^ (value.log2 - 52) := by
      rw [← Nat.pow_add, Nat.add_sub_cancel' wide]
    _ ≤ roundWhole value := Nat.mul_le_mul_right _ (nearestQuotient_bounds wide).1

theorem log2_le_log2_roundWhole {value : Nat} (wide : 52 ≤ value.log2) :
    value.log2 ≤ (roundWhole value).log2 := by
  have least := two_pow_log2_le_roundWhole wide
  have nonzero : roundWhole value ≠ 0 := Nat.ne_of_gt (Nat.lt_of_lt_of_le (Nat.two_pow_pos _) least)
  exact (Nat.le_log2 nonzero).2 least

/-- A float or its negation. -/
def signed (negative : Bool) (value : Float) : Float :=
  if negative then -value else value

section Signed

variable {value : Float} {mantissa : Nat} {positive : 0 < mantissa} (negative : Bool)

theorem truncate?_signed_of_normal {exponent : Nat}
    (unpacked : value.toModel.unpack = .finite .positive mantissa exponent positive)
    (width : mantissa.log2 = 52) (small : exponent ≤ 971) :
    truncate? (signed negative value) =
      some (if negative then -((mantissa * 2 ^ exponent : Nat) : Int)
        else (mantissa * 2 ^ exponent : Nat)) := by
  have again : (signed negative value).toModel.unpack =
      .finite (signOf negative) mantissa exponent positive := by
    cases negative with
    | false => exact unpacked
    | true =>
        change (Float.Model.pack value.toModel.unpack.neg).unpack = _
        rw [unpacked]
        exact unpack_pack_of_normal width (by omega) (by omega) .negative
  simp only [truncate?, ofFloat_of_finite again, floorBinary]
  simp [twoTo]

theorem truncate?_signed_of_infinity (unpacked : value.toModel.unpack = .infinity .positive) :
    truncate? (signed negative value) = none := by
  have again : (signed negative value).toModel.unpack = .infinity (signOf negative) := by
    cases negative with
    | false => exact unpacked
    | true =>
        change (Float.Model.pack value.toModel.unpack.neg).unpack = _
        rw [unpacked]
        rfl
  rw [truncate?, ofFloat_of_infinity again]

end Signed

/-- A large whole number taken as a float, with its sign, is rounded; beyond the range of floats
nothing is left. -/
theorem truncate?_signed_ofScientific {value : Nat} (large : 2 ^ 53 ≤ value) (negative : Bool) :
    truncate? (signed negative (Float.ofScientific value false 0)) =
      if (roundWhole value).log2 < 1024 then
        some (if negative then -(roundWhole value : Int) else roundWhole value)
      else none := by
  have wide : 52 ≤ value.log2 := (Nat.le_log2 (by omega)).2 (by omega)
  obtain ⟨mantissa, exponent, positive, shape, width, whole⟩ := ofScientific_whole wide
  have packed : (Float.ofScientific value false 0).toModel.unpack =
      (Float.Model.pack (.finite .positive mantissa exponent positive)).unpack := by
    rw [Float.ofScientific, dif_neg (by omega), ← shape]
    rfl
  have bound : (roundWhole value).log2 < 1024 ↔ exponent ≤ 971 := by
    rw [← whole, log2_mul_two_pow (Nat.ne_of_gt positive) exponent, width]
    omega
  by_cases small : exponent ≤ 971
  · rw [unpack_pack_of_normal width (by omega) (by omega)] at packed
    rw [if_pos (bound.2 small), truncate?_signed_of_normal negative packed width small, whole]
  · rw [unpack_pack_of_large (by omega)] at packed
    rw [if_neg (mt bound.1 small), truncate?_signed_of_infinity negative packed]

/-- A decimal digit is worth more than three binary ones. -/
theorem le_log2_of_digitCount {value count : Nat} (positive : 0 < count)
    (long : count < digitCount value) : 3 * count ≤ value.log2 := by
  have beyond : 10 ^ count ≤ value := by
    by_contra below
    exact absurd long (Nat.not_lt.2
      ((Nat.length_toDigits_le_iff (by decide) positive).2 (Nat.lt_of_not_le below)))
  have nonzero : value ≠ 0 := Nat.ne_of_gt (Nat.lt_of_lt_of_le (Nat.pow_pos (by decide)) beyond)
  rw [Nat.le_log2 nonzero]
  calc
    2 ^ (3 * count) = (2 ^ 3) ^ count := Nat.pow_mul 2 3 count
    _ ≤ 10 ^ count := Nat.pow_le_pow_left (by decide) count
    _ ≤ value := beyond

/-- A large whole number read as a float. -/
theorem truncate?_nearestFloat {digits : Nat} (large : 2 ^ 53 ≤ digits) (negative : Bool) :
    truncate? (nearestFloat negative digits 0) =
      if (roundWhole digits).log2 < 1024 then
        some (if negative then -(roundWhole digits : Int) else roundWhole digits)
      else none := by
  have nonzero : digits ≠ 0 := by omega
  by_cases long : 400 < digitCount digits
  · have log := le_log2_of_digitCount (by decide) long
    have outside : ¬ (roundWhole digits).log2 < 1024 := by
      have reached := log2_le_log2_roundWhole (show 52 ≤ digits.log2 by omega)
      omega
    have shape : nearestFloat negative digits 0 = signed negative (infinity false) := by
      simp [nearestFloat, signed, nonzero, long]
    rw [shape, if_neg outside]
    exact truncate?_signed_of_infinity negative rfl
  · have notTiny : ¬ (digitCount digits : Int) < -400 := by omega
    have shape :
        nearestFloat negative digits 0 = signed negative (Float.ofScientific digits false 0) := by
      simp [nearestFloat, signed, nonzero, long, notTiny]
    rw [shape, truncate?_signed_ofScientific large]

end TableFlow.Number
