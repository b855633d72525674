import Mathlib.Data.List.TakeWhile
import TableFlow.Proofs.Number.Digits
import TableFlow.Proofs.Number.Word

/-!
# Integers read from their notation

The notation of an integer is a row of digits, with a minus before it if the integer is negative.
It is read as that integer, and as a word if there is one.  Read as a float it is the nearest float.
-/

namespace TableFlow.Number

theorem splitSign_of_isDigit {first : Char} (rest : List Char)
    (starts : isDigit first = true ∨ first = '.') :
    splitSign (first :: rest) = (false, first :: rest) := by
  rw [splitSign]
  · rintro _ same
    cases same
    revert starts
    decide
  · rintro _ same
    cases same
    revert starts
    decide

/-- A row of digits is read as the float nearest to its value. -/
theorem readDecimal?_digits (negative : Bool) {digits : List Char}
    (each : ∀ char ∈ digits, isDigit char = true) (nonempty : digits ≠ []) :
    readDecimal? negative digits = some (nearestFloat negative (digitsValue digits) 0) := by
  have all : digits.takeWhile isDigit = digits := List.takeWhile_eq_self_iff.2 each
  have none : digits.dropWhile isDigit = [] := List.dropWhile_eq_nil_iff.2 each
  have some : digits.isEmpty = false := by simpa using nonempty
  simp only [readDecimal?, all, none, List.append_nil, some, readPower?]
  rfl

/-- A digit is no letter of a name for a float. -/
theorem toLower_of_isDigit {char : Char} (digit : isDigit char = true) :
    char.toLower ≠ 'i' ∧ char.toLower ≠ 'n' := by
  have each : ∀ offset < 10,
      (Char.ofNat (48 + offset)).toLower ≠ 'i' ∧ (Char.ofNat (48 + offset)).toLower ≠ 'n' := by
    decide
  obtain ⟨offset, small, code⟩ := exists_code_of_isDigit digit
  rw [← Char.ofNat_toNat char, code]
  exact each offset small

theorem splitSign_intText (value : Int) :
    splitSign (intText value).toList = (decide (value < 0), Nat.toDigits 10 value.natAbs) := by
  cases value with
  | ofNat magnitude =>
      obtain ⟨first, rest, shape, digit⟩ := exists_toDigits_cons magnitude
      rw [intText, String.toList_ofList, Int.natAbs_ofNat', shape,
        splitSign_of_isDigit rest (.inl digit)]
      simp
  | negSucc magnitude =>
      rw [intText, String.toList_ofList, splitSign]
      simp

theorem readInt?_intText (value : Int) : readInt? (intText value).toList = some value := by
  have read : readNat? (Nat.toDigits 10 value.natAbs) = some value.natAbs := by
    rw [readNat?, all_isDigit_toDigits, digitsValue_toDigits]
    simp
  have signed : (if value < 0 then -(value.natAbs : Int) else value.natAbs) = value := by omega
  simp only [readInt?, splitSign_intText, read, Option.bind_eq_bind, Option.bind_some,
    Option.pure_def, Option.map_some, decide_eq_true_eq, signed]

theorem readWord?_intText (value : Int) : readWord? (intText value).toList = word? value := by
  rw [readWord?, readInt?_intText, Option.bind_some]

theorem readFloat?_intText (value : Int) :
    readFloat? (intText value).toList =
      some (nearestFloat (decide (value < 0)) value.natAbs 0) := by
  obtain ⟨first, rest, shape, digit⟩ := exists_toDigits_cons value.natAbs
  obtain ⟨notI, notN⟩ := toLower_of_isDigit digit
  have decimal := isDecimal_toDigits value.natAbs
  have read := readDecimal?_digits (decide (value < 0)) decimal.digits Nat.toDigits_ne_nil
  rw [decimal.value] at read
  have noName : ∀ name : String, name.toList.head? = some 'i' ∨ name.toList.head? = some 'n' →
      String.ofList ((Nat.toDigits 10 value.natAbs).map Char.toLower) ≠ name := by
    rintro name starts rfl
    simp [shape, notI, notN] at starts
  simp only [readFloat?, splitSign_intText]
  rw [if_neg, if_neg (noName _ (.inr rfl)), read]
  exact not_or.2 ⟨noName _ (.inl rfl), noName _ (.inl rfl)⟩

end TableFlow.Number
