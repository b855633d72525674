import TableFlow.Proofs.Number.Rounding

/-!
# The order of floats and the floats of integers

Floats that are numbers compare by sign, exponent and mantissa, in this order, so their order is a
total one.

An integer becomes the nearest float.  Up to 53 binary digits that is the integer itself; of a
longer one the first 53 digits are left, rounded.  Rounding keeps the order of the integers but may
lose the difference of two of them.  Floats of integers have mantissas of full width, so they
compare as the rounded integers do.

Main statements: `compare_unpacked_then`, `nearest_mono` and `compare_ofInt`.
-/

namespace TableFlow.Number

open Float.Model (Format UnpackedFloat)
open Float.Model.UnpackedFloat

theorem compare_neg (left right : Int) : compare (-left) (-right) = (compare left right).swap := by
  rw [Int.compare_swap]
  simp only [Int.compare_eq_ite_lt, Int.neg_lt_neg_iff]

theorem compare_natCast (left right : Nat) : compare (left : Int) right = compare left right := by
  simp only [Int.compare_eq_ite_lt, Nat.compare_eq_ite_lt, Int.ofNat_lt]

/-- Two steps in a total order that do not go down make one. -/
theorem compare_then {α : Type} {cmp : α → α → Ordering} [Std.TransCmp cmp] {first second third : α}
    (before : cmp first second ≠ .gt) (after : cmp second third ≠ .gt) :
    cmp first third = (cmp first second).then (cmp second third) := by
  cases step : cmp first second with
  | lt => exact Std.TransCmp.lt_of_lt_of_isLE step (Ordering.isLE_iff_ne_gt.2 after)
  | eq => exact Std.TransCmp.congr_left step
  | gt => exact absurd step before

/-- What a float is ordered by: its sign, its exponent and its mantissa. -/
def orderKey? : UnpackedFloat → Option (Int × Int × Int)
  | .notANumber => none
  | .infinity sign => some (sign.apply 2, 0, 0)
  | .zero _ => some (0, 0, 0)
  | .finite sign mantissa exponent _ =>
    some (sign.apply 1, sign.apply exponent, sign.apply mantissa)

/-- The order of keys: the first parts that differ decide. -/
def compareKeys : Int × Int × Int → Int × Int × Int → Ordering :=
  compareLex (compareOn Prod.fst)
    (compareLex (compareOn fun key => key.2.1) (compareOn fun key => key.2.2))

instance : Std.TransCmp compareKeys := by
  unfold compareKeys
  infer_instance

/-- Floats compare as their keys. -/
theorem compare_unpacked_eq (left right : UnpackedFloat) :
    left.compare right =
      (orderKey? left).bind fun leftKey => (orderKey? right).map fun rightKey =>
        compareKeys leftKey rightKey := by
  rcases left with ⟨_ | _⟩ | _ | _ | ⟨_ | _, mantissa, exponent, _⟩ <;>
    rcases right with ⟨_ | _⟩ | _ | _ | ⟨_ | _, otherMantissa, otherExponent, _⟩ <;>
    try rfl
  -- The constructors decide all pairs but two finite floats of one sign.
  · change _ = some ((compare (-exponent) (-otherExponent)).then
      (compare (-(mantissa : Int)) (-otherMantissa)))
    rw [compare_neg, compare_neg, compare_natCast, ← Ordering.swap_then]
    rfl
  · change _ = some ((compare exponent otherExponent).then (compare (mantissa : Int) otherMantissa))
    rw [compare_natCast]
    rfl

theorem compare_unpacked_then {first second third : UnpackedFloat} {before after : Ordering}
    (firstSecond : first.compare second = some before)
    (secondThird : second.compare third = some after) (notBefore : before ≠ .gt)
    (notAfter : after ≠ .gt) :
    first.compare third = some (before.then after) := by
  rw [compare_unpacked_eq] at firstSecond secondThird ⊢
  obtain ⟨firstKey, isFirst, found⟩ := Option.bind_eq_some_iff.1 firstSecond
  obtain ⟨secondKey, isSecond, rfl⟩ := Option.map_eq_some_iff.1 found
  obtain ⟨_, isSecondToo, found⟩ := Option.bind_eq_some_iff.1 secondThird
  obtain ⟨thirdKey, isThird, rfl⟩ := Option.map_eq_some_iff.1 found
  cases isSecond.symm.trans isSecondToo
  rw [isFirst, isThird, Option.bind_some, Option.map_some, compare_then notBefore notAfter]

/-! ## Rounding keeps the order -/

theorem nearestQuotient_mono {left right : Nat} (le : left ≤ right) (grain : Nat) :
    nearestQuotient left grain ≤ nearestQuotient right grain := by
  rcases Nat.lt_or_eq_of_le (Nat.div_le_div_right (c := grain) le) with less | same
  · calc
      nearestQuotient left grain ≤ left / grain + 1 := nearestQuotient_le left grain
      _ ≤ right / grain := less
      _ ≤ nearestQuotient right grain := div_le_nearestQuotient right grain
  · have rests : left % grain ≤ right % grain := by
      have leftSplit := Nat.div_add_mod left grain
      have rightSplit := Nat.div_add_mod right grain
      rw [same] at leftSplit
      omega
    simp only [nearestQuotient, same]
    split_ifs <;> omega

@[simp] theorem nearestQuotient_one (value : Nat) : nearestQuotient value 1 = value := by
  simp [nearestQuotient, Nat.mod_one]

/-- Up to 53 binary digits nothing is lost. -/
theorem roundWhole_of_narrow {value : Nat} (narrow : value.log2 ≤ 52) :
    roundWhole value = value := by
  simp [roundWhole, Nat.sub_eq_zero_of_le narrow]

theorem roundWhole_le_two_pow (value : Nat) : roundWhole value ≤ 2 ^ (value.log2 + 1) := by
  rcases Nat.le_total value.log2 52 with narrow | wide
  · rw [roundWhole_of_narrow narrow]
    exact Nat.le_of_lt Nat.lt_log2_self
  · calc
      roundWhole value ≤ 2 ^ 53 * 2 ^ (value.log2 - 52) :=
        Nat.mul_le_mul_right _ (nearestQuotient_bounds wide).2
      _ = 2 ^ (value.log2 + 1) := by
        rw [← Nat.pow_add]
        congr 1
        omega

theorem two_pow_le_roundWhole {value : Nat} (nonzero : value ≠ 0) :
    2 ^ value.log2 ≤ roundWhole value := by
  rcases Nat.le_total value.log2 52 with narrow | wide
  · rw [roundWhole_of_narrow narrow]
    exact Nat.log2_self_le nonzero
  · exact two_pow_log2_le_roundWhole wide

theorem roundWhole_pos {value : Nat} (nonzero : value ≠ 0) : 0 < roundWhole value :=
  Nat.lt_of_lt_of_le (Nat.two_pow_pos _) (two_pow_le_roundWhole nonzero)

theorem log2_roundWhole_le {value : Nat} (nonzero : value ≠ 0) :
    (roundWhole value).log2 ≤ value.log2 + 1 := by
  apply Nat.le_of_lt_succ
  rw [Nat.log2_lt (Nat.ne_of_gt (roundWhole_pos nonzero))]
  exact Nat.lt_of_le_of_lt (roundWhole_le_two_pow value) (Nat.pow_lt_pow_succ (by decide))

theorem roundWhole_mono {left right : Nat} (le : left ≤ right) :
    roundWhole left ≤ roundWhole right := by
  rcases Nat.eq_zero_or_pos left with rfl | positive
  · exact Nat.zero_le _
  · have nonzero : right ≠ 0 := by omega
    have logs : left.log2 ≤ right.log2 :=
      (Nat.le_log2 nonzero).2 (Nat.le_trans (Nat.log2_self_le (Nat.ne_of_gt positive)) le)
    rcases Nat.lt_or_eq_of_le logs with less | same
    · -- A power of two lies between the two, and rounding does not pass it.
      calc
        roundWhole left ≤ 2 ^ (left.log2 + 1) := roundWhole_le_two_pow left
        _ ≤ 2 ^ right.log2 := Nat.pow_le_pow_right (by decide) less
        _ ≤ roundWhole right := two_pow_le_roundWhole nonzero
    · rw [roundWhole, roundWhole, same]
      exact Nat.mul_le_mul_right _ (nearestQuotient_mono le _)

/-- The integer nearest to an integer among those with 53 binary digits. -/
def nearest : Int → Int
  | .ofNat magnitude => roundWhole magnitude
  | .negSucc magnitude => -roundWhole (magnitude + 1)

theorem nearest_mono {left right : Int} (le : left ≤ right) : nearest left ≤ nearest right := by
  cases left with
  | ofNat less =>
    cases right with
    | ofNat greater => exact Int.ofNat_le.2 (roundWhole_mono (Int.ofNat_le.1 le))
    | negSucc greater =>
      rw [Int.ofNat_eq_natCast] at le
      omega
  | negSucc less =>
    cases right with
    | ofNat greater =>
      simp only [nearest]
      omega
    | negSucc greater =>
      have rounded : roundWhole (greater + 1) ≤ roundWhole (less + 1) := roundWhole_mono (by omega)
      simp only [nearest]
      omega

/-- Nothing is lost of the integers up to `2 ^ 53`. -/
theorem nearest_of_small {value : Int} (small : value.natAbs ≤ 2 ^ 53) : nearest value = value := by
  have exact {magnitude : Nat} (le : magnitude ≤ 2 ^ 53) : roundWhole magnitude = magnitude := by
    rcases Nat.lt_or_eq_of_le le with less | rfl
    · apply roundWhole_of_narrow
      rcases Nat.eq_zero_or_pos magnitude with rfl | positive
      · decide
      · exact Nat.le_of_lt_succ ((Nat.log2_lt (Nat.ne_of_gt positive)).2 less)
    · rw [roundWhole, Nat.log2_two_pow]
      norm_num [nearestQuotient]
  cases value with
  | ofNat magnitude => exact congrArg Int.ofNat (exact small)
  | negSucc magnitude => exact congrArg (fun whole : Nat => -(whole : Int)) (exact small)

theorem nearest_eq_zero_iff {value : Int} : nearest value = 0 ↔ value = 0 := by
  cases value with
  | ofNat magnitude =>
    rcases Nat.eq_zero_or_pos magnitude with rfl | positive
    · simp [nearest, roundWhole_of_narrow]
    · have rounded := roundWhole_pos (Nat.ne_of_gt positive)
      simp only [nearest, Int.ofNat_eq_natCast]
      omega
  | negSucc magnitude =>
    have rounded : 0 < roundWhole (magnitude + 1) := roundWhole_pos (Nat.succ_ne_zero magnitude)
    simp only [nearest]
    omega

/-- Rounding changes nothing that has full width but for zeros behind it. -/
theorem roundWithAccuracy_of_width {mantissa : Nat} (width : mantissa.log2 = 52)
    (positive : 0 < mantissa) (count : Nat) (exponent : Int)
    (normal : -1022 ≤ 52 + count + exponent) (sign : Sign) :
    roundWithAccuracy Format.binary64 sign (mantissa * 2 ^ count) exponent .exact =
      .finite sign mantissa (exponent + count) positive := by
  have log : (mantissa * 2 ^ count).log2 = 52 + count := by
    rw [log2_mul_two_pow (Nat.ne_of_gt positive), width]
  have wide : 52 ≤ (mantissa * 2 ^ count).log2 := by omega
  have shiftedNormal : -1022 ≤ ((mantissa * 2 ^ count).log2 : Int) + exponent := by omega
  obtain ⟨rounded, raise, roundedPositive, shape, roundedWidth, quotient⟩ :=
    roundWithAccuracy_exact wide shiftedNormal sign
  have divided := nearestQuotient_mul_right (Nat.two_pow_pos count) mantissa 1
  rw [Nat.one_mul, nearestQuotient_one] at divided
  rw [log, Nat.add_sub_cancel_left, divided] at quotient
  have noRaise : raise = 0 := by
    have logs := log2_mul_two_pow (Nat.ne_of_gt roundedPositive) raise
    rw [quotient] at logs
    omega
  subst noRaise
  rw [Nat.pow_zero, Nat.mul_one] at quotient
  subst quotient
  rw [shape, log]
  simp only [finite.injEq, true_and]
  omega

/-- An unpacked float that is a whole number and has a mantissa of full width. -/
inductive IsWhole : Int → UnpackedFloat → Prop where
  | zero : IsWhole 0 (.zero .positive)
  | finite (sign : Sign) {value mantissa count : Nat} {positive : 0 < mantissa}
    (width : mantissa.log2 = 52)
      (same : mantissa * 2 ^ count = value * 2 ^ 52) :
      IsWhole (sign.apply value) (.finite sign mantissa (count - 52) positive)

theorem bounds_of_width {mantissa : Nat} (width : mantissa.log2 = 52) :
    2 ^ 52 ≤ mantissa ∧ mantissa < 2 ^ 53 :=
  (Nat.log2_eq_iff (ne_zero_of_wide (Nat.le_of_eq width.symm))).1 width

/-- Among mantissas of full width the exponent decides first. -/
theorem lt_of_exponent_lt {mantissa other lower upper : Nat} (width : mantissa.log2 = 52)
    (otherWidth : other.log2 = 52) (less : lower < upper) :
    mantissa * 2 ^ lower < other * 2 ^ upper :=
  calc
    mantissa * 2 ^ lower < 2 ^ 53 * 2 ^ lower :=
      Nat.mul_lt_mul_of_pos_right (bounds_of_width width).2 (Nat.two_pow_pos lower)
    _ = 2 ^ 52 * 2 ^ (lower + 1) := by ring
    _ ≤ other * 2 ^ upper :=
      Nat.mul_le_mul (bounds_of_width otherWidth).1 (Nat.pow_le_pow_right (by decide) less)

theorem compare_of_width {mantissa other : Nat} (width : mantissa.log2 = 52)
    (otherWidth : other.log2 = 52) (count otherCount : Nat) :
    (compare ((count : Int) - 52) (otherCount - 52)).then (compare mantissa other) =
      compare (mantissa * 2 ^ count) (other * 2 ^ otherCount) := by
  rcases Nat.lt_trichotomy count otherCount with less | rfl | greater
  · rw [Int.compare_eq_lt.2 (by omega),
      Nat.compare_eq_lt.2 (lt_of_exponent_lt width otherWidth less)]
    rfl
  · rw [Int.compare_eq_eq.2 rfl, Ordering.eq_then]
    simp only [Nat.compare_eq_ite_lt, Nat.mul_lt_mul_right (Nat.two_pow_pos count)]
  · rw [Int.compare_eq_gt.2 (by omega),
      Nat.compare_eq_gt.2 (lt_of_exponent_lt otherWidth width greater)]
    rfl

theorem value_pos {value mantissa count : Nat} (positive : 0 < mantissa)
    (same : mantissa * 2 ^ count = value * 2 ^ 52) : (0 : Int) < value := by
  have product := Nat.mul_pos positive (Nat.two_pow_pos count)
  omega

/-- Whole numbers of full width compare as integers. -/
theorem IsWhole.compare_eq {left right : Int} {leftFloat rightFloat : UnpackedFloat}
    (isLeft : IsWhole left leftFloat) (isRight : IsWhole right rightFloat) :
    leftFloat.compare rightFloat = some (compare left right) := by
  cases isLeft with
  | zero =>
    cases isRight with
    | zero => rfl
    | @finite sign value mantissa count positive width same =>
      have above := value_pos positive same
      cases sign with
      | negative => exact congrArg some (Int.compare_eq_gt.2 (Int.neg_neg_of_pos above)).symm
      | positive => exact congrArg some (Int.compare_eq_lt.2 above).symm
  | @finite sign value mantissa count positive width same =>
    have above := value_pos positive same
    cases isRight with
    | zero =>
      cases sign with
      | negative => exact congrArg some (Int.compare_eq_lt.2 (Int.neg_neg_of_pos above)).symm
      | positive => exact congrArg some (Int.compare_eq_gt.2 above).symm
    | @finite otherSign otherValue otherMantissa otherCount otherPositive otherWidth otherSame =>
      have otherAbove := value_pos otherPositive otherSame
      have magnitudes :
          (compare ((count : Int) - 52) (otherCount - 52)).then (compare mantissa otherMantissa) =
          compare (value : Int) otherValue := by
        rw [compare_of_width width otherWidth, same, otherSame, compare_natCast]
        simp only [Nat.compare_eq_ite_lt, Nat.mul_lt_mul_right (Nat.two_pow_pos 52)]
      cases sign <;> cases otherSign
      case negative.negative =>
        exact congrArg some ((congrArg Ordering.swap magnitudes).trans (compare_neg _ _).symm)
      case negative.positive =>
        exact congrArg some (Int.compare_eq_lt.2 (by simp only [Sign.apply]; omega)).symm
      case positive.negative =>
        exact congrArg some (Int.compare_eq_gt.2 (by simp only [Sign.apply]; omega)).symm
      case positive.positive => exact congrArg some magnitudes

theorem apply_neg (sign : Sign) (value : Int) : (-sign).apply value = -sign.apply value := by
  cases sign with
  | negative => exact (Int.neg_neg value).symm
  | positive => rfl

theorem IsWhole.neg {value : Int} {unpacked : UnpackedFloat} (nonzero : value ≠ 0)
    (whole : IsWhole value unpacked) : IsWhole (-value) unpacked.neg := by
  cases whole with
  | zero => exact absurd rfl nonzero
  | finite sign width same =>
    rw [← apply_neg]
    exact .finite (-sign) width same

/-- Packing and unpacking changes nothing within the range of floats. -/
theorem IsWhole.unpack_pack {value : Int} {unpacked : UnpackedFloat}
    (whole : IsWhole value unpacked)
    (small : value.natAbs.log2 ≤ 1023) : (Float.Model.pack unpacked).unpack = unpacked := by
  cases whole with
  | zero => rfl
  | @finite sign value mantissa count positive width same =>
    have magnitude : (sign.apply value).natAbs = value := by
      cases sign <;> simp [Sign.apply]
    have above := value_pos positive same
    have log : mantissa.log2 + count = value.log2 + 52 := by
      rw [← log2_mul_two_pow (Nat.ne_of_gt positive), same, log2_mul_two_pow (by omega)]
    rw [magnitude] at small
    exact unpack_pack_of_normal width (by omega) (by omega) sign

theorem round_narrow {value : Nat} (nonzero : value ≠ 0) (narrow : value.log2 ≤ 52) :
    IsWhole value (UnpackedFloat.round Format.binary64 .positive value 0) := by
  have target :
      Format.binary64.targetExponent (Float.Model.totalExponent value 0) = value.log2 - 52 := by
    simp only [Format.targetExponent, Float.Model.totalExponent, Format.mantissaBits,
      Format.minExponent]
    omega
  have count : (0 - ((value.log2 : Int) - 52)).toNat = 52 - value.log2 := by omega
  have width : (value * 2 ^ (52 - value.log2)).log2 = 52 := by
    rw [log2_mul_two_pow nonzero]
    omega
  have positive : 0 < value * 2 ^ (52 - value.log2) :=
    Nat.mul_pos (Nat.pos_of_ne_zero nonzero) (Nat.two_pow_pos _)
  have rounded :=
    roundWithAccuracy_of_width width positive 0 (0 - (52 - value.log2 : Nat)) (by omega) .positive
  have exponent : (0 : Int) - (52 - value.log2 : Nat) + (0 : Nat) = value.log2 - 52 := by omega
  rw [Nat.pow_zero, Nat.mul_one, exponent] at rounded
  simp only [UnpackedFloat.round, decreaseExponent, target, count, Nat.shiftLeft_eq, rounded]
  refine .finite .positive width ?_
  rw [Nat.mul_assoc, ← Nat.pow_add, Nat.sub_add_cancel narrow]

theorem IsWhole.mul_one {value : Int} {unpacked : UnpackedFloat} (whole : IsWhole value unpacked) :
    UnpackedFloat.mul Format.binary64 unpacked (.finite .positive (2 ^ 52) (-52) (by decide)) =
      unpacked := by
  cases whole with
  | zero => rfl
  | @finite sign value mantissa count positive width same =>
    have rounded :=
      roundWithAccuracy_of_width width positive 52 (count - 52 + -52) (by omega) (sign * .positive)
    have exponent : (count : Int) - 52 + -52 + (52 : Nat) = count - 52 := by omega
    have signs : sign * .positive = sign := by cases sign <;> rfl
    rw [exponent, signs] at rounded
    simp only [UnpackedFloat.mul, signs, rounded]

theorem unpack_mul (left right : Float) :
    (left * right).toModel.unpack =
      (Float.Model.pack (.mul Format.binary64 left.toModel.unpack right.toModel.unpack)).unpack :=
  rfl

theorem unpack_one : Float.exactlyRepresentablePowersOfTen[0].toModel.unpack =
    .finite .positive (2 ^ 52) (-52) (by decide) := rfl

theorem unpack_toFloat {value : Nat} (nonzero : value ≠ 0) (small : value < 2 ^ 64) :
    value.toUInt64.toFloat.toModel.unpack =
      (Float.Model.pack (UnpackedFloat.round Format.binary64 .positive value 0)).unpack := by
  have same : value.toUInt64.toNat = value := by
    rw [UInt64.toNat_ofNat', Nat.mod_eq_of_lt small]
  change (Float.Model.pack (UnpackedFloat.ofUInt64 Format.binary64 value.toUInt64)).unpack = _
  rw [UnpackedFloat.ofUInt64, same, UnpackedFloat.ofNat, UnpackedFloat.ofInt,
    UnpackedFloat.normalize, Int.compare_eq_gt.2 (by omega), Int.toNat_natCast]

/-- What a number of 64 bits becomes lies within the range of floats. -/
theorem log2_roundWhole_small {value : Nat} (nonzero : value ≠ 0) (small : value < 2 ^ 64) :
    (roundWhole value : Int).natAbs.log2 ≤ 1023 := by
  have log : value.log2 < 64 := (Nat.log2_lt nonzero).2 small
  have rounded := log2_roundWhole_le nonzero
  rw [Int.natAbs_natCast]
  omega

theorem isWhole_ofNat {value : Nat} (nonzero : value ≠ 0) (small : value < 2 ^ 64) :
    IsWhole (roundWhole value) (Float.ofNat value).toModel.unpack := by
  change IsWhole _ (Float.ofScientific value false 0).toModel.unpack
  have inRange := log2_roundWhole_small nonzero small
  by_cases short : value < 2 ^ 53
  · -- Short numbers are converted and multiplied by one.
    have narrow : value.log2 ≤ 52 := Nat.le_of_lt_succ ((Nat.log2_lt nonzero).2 short)
    have whole := round_narrow nonzero narrow
    rw [roundWhole_of_narrow narrow] at inRange ⊢
    rw [Float.ofScientific, dif_pos ⟨short, by decide⟩]
    change IsWhole _
      (value.toUInt64.toFloat * Float.exactlyRepresentablePowersOfTen[0]).toModel.unpack
    rw [unpack_mul, unpack_one, unpack_toFloat nonzero small, whole.unpack_pack inRange,
      whole.mul_one, whole.unpack_pack inRange]
    exact whole
  · have wide : 52 ≤ value.log2 := (Nat.le_log2 nonzero).2 (by omega)
    obtain ⟨mantissa, exponent, positive, shape, width, same⟩ := ofScientific_whole wide
    have whole : IsWhole (roundWhole value)
        (.finite .positive mantissa ((exponent + 52 : Nat) - 52) positive) := by
      refine .finite .positive width ?_
      rw [Nat.pow_add, ← Nat.mul_assoc, same]
    rw [Nat.cast_add, Nat.cast_ofNat, Int.add_sub_cancel, ← shape] at whole
    rw [Float.ofScientific, dif_neg (by omega)]
    change IsWhole _ (Float.Model.pack (ofScientific Format.binary64 value 0)).unpack
    rw [whole.unpack_pack inRange]
    exact whole

/-- An integer becomes the nearest whole number that a float can hold. -/
theorem isWhole_ofInt {value : Int} (small : value.natAbs < 2 ^ 64) :
    IsWhole (nearest value) (Float.ofInt value).toModel.unpack := by
  cases value with
  | ofNat magnitude =>
    rcases Nat.eq_zero_or_pos magnitude with rfl | positive
    · exact IsWhole.zero
    · exact isWhole_ofNat (Nat.ne_of_gt positive) small
  | negSucc magnitude =>
    have nonzero := Nat.succ_ne_zero magnitude
    have negated :=
      (isWhole_ofNat nonzero small).neg (Int.natCast_ne_zero.2 (roundWhole_pos nonzero).ne')
    change IsWhole _ (Float.Model.pack (Float.ofNat (magnitude + 1)).toModel.unpack.neg).unpack
    rw [negated.unpack_pack (by rw [Int.natAbs_neg]; exact log2_roundWhole_small nonzero small)]
    exact negated

/-- Floats of integers compare as the nearest whole numbers. -/
theorem compare_ofInt {left right : Int} (leftSmall : left.natAbs < 2 ^ 64)
    (rightSmall : right.natAbs < 2 ^ 64) :
    (Float.ofInt left).toModel.unpack.compare (Float.ofInt right).toModel.unpack =
      some (compare (nearest left) (nearest right)) :=
  (isWhole_ofInt leftSmall).compare_eq (isWhole_ofInt rightSmall)

end TableFlow.Number
