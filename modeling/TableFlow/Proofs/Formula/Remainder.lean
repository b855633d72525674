import Mathlib.Data.Int.ModEq
import TableFlow.Formula.Eval
import TableFlow.Proofs.Cell.Transitivity
import TableFlow.Proofs.Number.Word

/-!
# Remainders of integers

The remainder of two integers is that of the division that rounds down: it has the sign of the
divisor and is less than it in magnitude.  It is computed from the remainder of the division that
rounds towards zero, to which the divisor is added if the signs differ; the sum is always a word.
The one pair of integers without a remainder is the one whose quotient is no word.

Main statement: `flooredRem?_roundsDown`.
-/

namespace TableFlow.Formula

open TableFlow.Number

theorem fmod_bounds (dividend divisor : Int) :
    (0 < divisor → 0 ≤ dividend.fmod divisor ∧ dividend.fmod divisor < divisor) ∧
      (divisor < 0 → divisor < dividend.fmod divisor ∧ dividend.fmod divisor ≤ 0) :=
  ⟨fun positive => ((Int.fdiv_fmod_unique positive).1 ⟨rfl, rfl⟩).2,
    fun negative => ((Int.fdiv_fmod_unique' negative).1 ⟨rfl, rfl⟩).2⟩

/-- A remainder towards zero has the sign of the dividend; the divisor is added where its sign
differs. -/
theorem fmod_eq_tmod_adjusted (dividend divisor : Int) :
    dividend.fmod divisor =
      if dividend.tmod divisor ≠ 0 ∧ decide (dividend.tmod divisor < 0) ≠ decide (divisor < 0) then
        dividend.tmod divisor + divisor
      else dividend.tmod divisor := by
  rw [Int.fmod_eq_tmod]
  by_cases exact : divisor ∣ dividend
  · simp [exact, Int.tmod_eq_zero_of_dvd exact]
  · have rest : dividend.tmod divisor ≠ 0 := mt Int.dvd_of_tmod_eq_zero exact
    have sign : (dividend.tmod divisor).sign = dividend.sign := by
      rw [Int.sign_tmod, if_neg exact]
    have negative : dividend.tmod divisor < 0 ↔ dividend < 0 := by
      rw [← Int.sign_eq_neg_one_iff_neg, sign, Int.sign_eq_neg_one_iff_neg]
    simp only [exact, rest, negative, if_false, ne_eq, not_false_eq_true, true_and,
      decide_eq_decide]
    split_ifs <;> omega

theorem toInt_eq_zero_iff {word : Int64} : word.toInt = 0 ↔ word = 0 :=
  @Int64.toInt_inj word 0

/-- Rounding an integer to a float gives zero for zero only. -/
theorem floatOf_beq_zero_iff {word : Int64} : (Cell.floatOf word == 0.0) = true ↔ word = 0 := by
  have zero : (0.0 : Float) = Cell.floatOf 0 := by decide +kernel
  rw [zero, ← Cell.compareFloats?_eq_some_eq_iff, Cell.compareFloats?_floatOf, Option.some.injEq,
    Int.compare_eq_eq, Int64.toInt_zero, nearest_eq_zero_iff.2 rfl, nearest_eq_zero_iff,
    toInt_eq_zero_iff]

/-- The integers whose quotient is no word. -/
theorem limits_iff {dividend divisor : Int64} :
    dividend.toInt = leastWord ∧ divisor.toInt = -1 ↔ dividend = Int64.minValue ∧ divisor = -1 :=
  and_congr (@Int64.toInt_inj dividend Int64.minValue) (@Int64.toInt_inj divisor (-1))

theorem isWord_fmod (dividend : Int64) {divisor : Int64} (nonzero : divisor ≠ 0) :
    IsWord (dividend.toInt.fmod divisor.toInt) := by
  have divides := mt toInt_eq_zero_iff.1 nonzero
  have bounds := fmod_bounds dividend.toInt divisor.toInt
  have fits := isWord_toInt divisor
  simp only [IsWord, leastWord, greatestWord] at fits ⊢
  omega

section Remainder

variable {dividend divisor : Int64} (nonzero : divisor ≠ 0)

include nonzero

theorem flooredRem?_eq_word? (inside : ¬ (dividend = Int64.minValue ∧ divisor = -1)) :
    flooredRem? dividend divisor = word? (dividend.toInt.fmod divisor.toInt) := by
  rw [fmod_eq_tmod_adjusted, apply_ite word?]
  exact if_neg (not_or.2 ⟨mt toInt_eq_zero_iff.1 nonzero, mt limits_iff.1 inside⟩)

theorem flooredRem?_eq_none_iff :
    flooredRem? dividend divisor = none ↔ dividend = Int64.minValue ∧ divisor = -1 := by
  constructor
  · intro missing
    by_contra inside
    rw [flooredRem?_eq_word? nonzero inside, word?_eq_none_iff] at missing
    exact missing (isWord_fmod dividend nonzero)
  · intro limits
    exact if_pos (.inr (limits_iff.2 limits))

/-- The adjusted remainder is a word, so that adding the divisor never fails. -/
theorem isWord_adjusted (rest : dividend.toInt.tmod divisor.toInt ≠ 0)
    (differ : decide (dividend.toInt.tmod divisor.toInt < 0) ≠ decide (divisor.toInt < 0)) :
    IsWord (dividend.toInt.tmod divisor.toInt + divisor.toInt) := by
  have fits := isWord_fmod dividend nonzero
  rwa [fmod_eq_tmod_adjusted, if_pos ⟨rest, differ⟩] at fits

theorem evalBinary_mod_integers :
    evalBinary .mod (.integer dividend) (.integer divisor) =
      (flooredRem? dividend divisor).elim (.error (.overflow "%")) fun rest =>
        .ok (.integer rest) := by
  have divides : ¬ (Cell.floatOf divisor == 0.0) = true := mt floatOf_beq_zero_iff.1 nonzero
  calc
    evalBinary .mod (.integer dividend) (.integer divisor) =
        if (Cell.floatOf divisor == 0.0) = true then .ok .null
        else arithmetic .mod flooredRem? flooredFloatRem (.integer dividend) (.integer divisor) :=
      rfl
    _ = arithmetic .mod flooredRem? flooredFloatRem (.integer dividend) (.integer divisor) :=
      if_neg divides
    _ = _ := by
      rw [arithmetic]
      cases flooredRem? dividend divisor <;> rfl

end Remainder

/-- The remainder of two integers is that of the division that rounds down.  It is missing for the
one quotient that is no word, and never because the adjusted remainder is no word. -/
theorem flooredRem?_roundsDown (dividend divisor : Int64) (nonzero : divisor ≠ 0) :
    (flooredRem? dividend divisor = none ↔ dividend = Int64.minValue ∧ divisor = -1) ∧
      (¬ (dividend = Int64.minValue ∧ divisor = -1) →
        ∃ rest, flooredRem? dividend divisor = some rest ∧
          rest.toInt = dividend.toInt.fmod divisor.toInt ∧
          rest.toInt ≡ dividend.toInt [ZMOD divisor.toInt] ∧
          (0 < divisor → 0 ≤ rest ∧ rest < divisor) ∧ (divisor < 0 → divisor < rest ∧ rest ≤ 0)) ∧
      (dividend.toInt.tmod divisor.toInt ≠ 0 →
        decide (dividend.toInt.tmod divisor.toInt < 0) ≠ decide (divisor.toInt < 0) →
        ∃ rest, word? (dividend.toInt.tmod divisor.toInt + divisor.toInt) = some rest) ∧
      evalBinary .mod (.integer dividend) (.integer divisor) =
        (flooredRem? dividend divisor).elim (.error (.overflow "%")) fun rest =>
          .ok (.integer rest) := by
  refine ⟨flooredRem?_eq_none_iff nonzero, ?_, ?_, evalBinary_mod_integers nonzero⟩
  · intro inside
    obtain ⟨rest, found⟩ := exists_of_isWord (isWord_fmod dividend nonzero)
    have value := toInt_of_word? found
    refine ⟨rest, (flooredRem?_eq_word? nonzero inside).trans found, value, ?_, ?_⟩
    · rw [value, Int.modEq_iff_dvd]
      exact Int.dvd_self_sub_fmod
    · simp only [Int64.lt_iff_toInt_lt, Int64.le_iff_toInt_le, Int64.toInt_zero, value]
      exact fmod_bounds dividend.toInt divisor.toInt
  · intro rest differ
    exact exists_of_isWord (isWord_adjusted nonzero rest differ)

/-- The remainder of the least word by the greatest one is positive, and one less than the
divisor. -/
theorem flooredRem?_roundsDown_limits :
    Int64.maxValue ≠ 0 ∧ ¬ (Int64.minValue = Int64.minValue ∧ Int64.maxValue = -1) ∧
      ∃ rest, flooredRem? Int64.minValue Int64.maxValue = some rest ∧
        rest.toInt = 9223372036854775806 ∧
        0 ≤ rest ∧ rest < Int64.maxValue := by
  have nonzero : Int64.maxValue ≠ 0 := by decide
  have inside : ¬ (Int64.minValue = Int64.minValue ∧ Int64.maxValue = -1) := by decide
  obtain ⟨rest, found, value, _, positive, _⟩ :=
    (flooredRem?_roundsDown Int64.minValue Int64.maxValue nonzero).2.1 inside
  exact ⟨nonzero, inside, rest, found, value, positive (by decide)⟩

end TableFlow.Formula
