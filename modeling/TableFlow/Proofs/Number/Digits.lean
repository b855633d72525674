import TableFlow.Number.Reader
import TableFlow.Text.Blank

/-!
# Rows of digits

A row of digits is a decimal of its value.  The usual notation of a number is one, and so is the
notation of a fixed width with zeros in front if the number fits in that width.  A row of digits
ends where something else than a digit follows.
-/

namespace TableFlow.Number

open TableFlow.Text

theorem isDigit_eq (char : Char) : isDigit char = char.isDigit := by
  simp only [isDigit, Char.isDigit, Char.le_def, ge_iff_le]

theorem exists_code_of_isDigit {char : Char} (digit : isDigit char = true) :
    ∃ offset < 10, char.toNat = 48 + offset := by
  obtain ⟨low, high⟩ : 48 ≤ char.toNat ∧ char.toNat ≤ 57 := by
    simpa [isDigit, Char.le_def, UInt32.le_iff_toNat_le] using digit
  exact ⟨char.toNat - 48, by omega, by omega⟩

theorem not_isBlank_of_isDigit {char : Char} (digit : isDigit char = true) :
    isBlank char = false := by
  have plain : ∀ offset < 10, blankRanges.holds (48 + offset) = false := by decide
  obtain ⟨offset, small, code⟩ := exists_code_of_isDigit digit
  rw [isBlank, code, plain offset small]

theorem isDigit_digitChar {digit : Nat} (small : digit < 10) :
    isDigit (Nat.digitChar digit) = true := by
  rw [isDigit_eq, Nat.isDigit_digitChar, decide_eq_true small]

theorem digitValue_digitChar {digit : Nat} (small : digit < 10) :
    digitValue (Nat.digitChar digit) = digit := by
  rw [digitValue, Nat.toNat_digitChar_of_lt_ten small]
  exact Nat.add_sub_cancel_left 48 digit

section Ends

variable {test : Char → Bool} {rest : List Char} (chars : List Char)
  (stops : ∀ char ∈ rest.head?, test char = false)

include stops

theorem takeWhile_append_of_head : (chars ++ rest).takeWhile test = chars.takeWhile test := by
  induction chars with
  | nil =>
      cases rest with
      | nil => rfl
      | cons char rest => simp [stops char rfl]
  | cons char chars ih => simp [List.takeWhile_cons, ih]

theorem dropWhile_append_of_head :
    (chars ++ rest).dropWhile test = chars.dropWhile test ++ rest := by
  induction chars with
  | nil =>
      cases rest with
      | nil => rfl
      | cons char rest => simp [stops char rfl]
  | cons char chars ih =>
      simp only [List.cons_append, List.dropWhile_cons, ih]
      split <;> rfl

end Ends

/-- A row of digits with a value. -/
structure IsDecimal (row : List Char) (value : Nat) : Prop where
  digits : ∀ char ∈ row, isDigit char = true
  value : digitsValue row = value

theorem digitsValue_toDigits (value : Nat) : digitsValue (Nat.toDigits 10 value) = value := by
  have same : digitsValue (Nat.toDigits 10 value) =
      Nat.ofDigitChars 10 (Nat.toDigits 10 value) 0 := by
    simp only [digitsValue, digitValue, Nat.ofDigitChars, Nat.mul_comm]
  rw [same, Nat.ofDigitChars_ten_toDigits]

theorem all_isDigit_toDigits (value : Nat) : (Nat.toDigits 10 value).all isDigit = true := by
  rw [List.all_eq_true]
  intro char inside
  rw [isDigit_eq]
  exact Nat.isDigit_of_mem_toDigits (by decide) (by decide) inside

theorem isDecimal_toDigits (value : Nat) : IsDecimal (Nat.toDigits 10 value) value :=
  ⟨List.all_eq_true.1 (all_isDigit_toDigits value), digitsValue_toDigits value⟩

/-- The notation of a number starts with a digit. -/
theorem exists_toDigits_cons (value : Nat) :
    ∃ first rest, Nat.toDigits 10 value = first :: rest ∧ isDigit first = true := by
  have digits := all_isDigit_toDigits value
  cases shape : Nat.toDigits 10 value with
  | nil => exact absurd shape Nat.toDigits_ne_nil
  | cons first rest =>
      rw [shape, List.all_cons, Bool.and_eq_true] at digits
      exact ⟨first, rest, rfl, digits.1⟩

theorem IsDecimal.count_eq_zero {row : List Char} {value : Nat} (decimal : IsDecimal row value)
    {char : Char} (notDigit : isDigit char = false) : row.count char = 0 := by
  rw [List.count_eq_zero]
  intro inside
  exact Bool.false_ne_true (notDigit.symm.trans (decimal.digits char inside))

/-- Zeros in front do not count. -/
theorem IsDecimal.zeros {row : List Char} {value : Nat} (decimal : IsDecimal row value)
    (count : Nat) : IsDecimal (List.replicate count '0' ++ row) value := by
  induction count with
  | zero => exact decimal
  | succ count ih =>
      refine ⟨?_, ih.value⟩
      intro char inside
      rcases List.mem_cons.1 inside with rfl | later
      · rfl
      · exact ih.digits char later

/-- A digit at the end counts the ones. -/
theorem IsDecimal.snoc {row : List Char} {value digit : Nat} (decimal : IsDecimal row value)
    (small : digit < 10) : IsDecimal (row ++ [Nat.digitChar digit]) (value * 10 + digit) := by
  constructor
  · intro char inside
    rcases List.mem_append.1 inside with front | last
    · exact decimal.digits char front
    · rw [List.mem_singleton.1 last]
      exact isDigit_digitChar small
  · have value := decimal.value
    rw [digitsValue] at value
    rw [digitsValue, List.foldl_append, value, List.foldl_cons, List.foldl_nil,
      digitValue_digitChar small]

/-- A number in as many digits as wanted, with zeros in front. -/
def fixedDigits : Nat → Nat → List Char
  | 0, _ => []
  | width + 1, value => fixedDigits width (value / 10) ++ [Nat.digitChar (value % 10)]

theorem length_fixedDigits (width value : Nat) : (fixedDigits width value).length = width := by
  induction width generalizing value with
  | zero => rfl
  | succ width ih => rw [fixedDigits, List.length_append, ih, List.length_singleton]

theorem isDecimal_fixedDigits {width value : Nat} (fits : value < tenTo width) :
    IsDecimal (fixedDigits width value) value := by
  induction width generalizing value with
  | zero =>
      obtain rfl := Nat.lt_one_iff.1 fits
      exact ⟨fun _ inside => absurd inside List.not_mem_nil, rfl⟩
  | succ width ih =>
      have front : value / 10 < tenTo width := Nat.div_lt_of_lt_mul (by rwa [Nat.mul_comm])
      have whole := (ih front).snoc (Nat.mod_lt value (by decide))
      rwa [Nat.div_add_mod'] at whole

end TableFlow.Number
