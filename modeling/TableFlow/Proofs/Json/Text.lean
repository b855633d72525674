import TableFlow.Json.Text

/-!
# Strings read back

Main statement: reading a written string gives the string and stops right behind its closing
quote, whatever follows.
-/

namespace TableFlow.Json

theorem hexDigit?_digitChar : ∀ digit < 16, hexDigit? (Nat.digitChar digit) = some digit := by
  decide

/-- The escape of a control character spells its code. -/
theorem hexUnit?_control {code : Nat} (control : code < 32) :
    hexUnit? '0' '0' (Nat.digitChar (code / 16)) (Nat.digitChar (code % 16)) = some code := by
  have zero : hexDigit? '0' = some 0 := by decide
  have high := hexDigit?_digitChar (code / 16) (by omega)
  have low := hexDigit?_digitChar (code % 16) (by omega)
  simp only [hexUnit?, zero, high, low, Option.bind_eq_bind, Option.bind_some, Option.pure_def,
    Option.some.injEq]
  omega

/-- A character that needs no escape is read as it is. -/
theorem readStringFrom_plain (passed : List Char) {char : Char} (rest : List Char)
    (notQuote : char ≠ '"') (notBackslash : char ≠ '\\') (notControl : ¬ char < ' ') :
    readStringFrom passed (char :: rest) = readStringFrom (char :: passed) rest := by
  rw [readStringFrom]
  · rw [if_neg (not_or.2 ⟨notBackslash, notControl⟩)]
  · exact notQuote
  · intro _ _ _ _ _ backslash
    exact absurd backslash notBackslash
  · intro _ _ backslash
    exact absurd backslash notBackslash

/-- Reading passes over a written character. -/
theorem readStringFrom_writeChar (passed : List Char) (char : Char) (rest : List Char) :
    readStringFrom passed (writeChar char ++ rest) = readStringFrom (char :: passed) rest := by
  unfold writeChar
  split
  · simp [readStringFrom, shortEscape?]
  · simp [readStringFrom, shortEscape?]
  · simp [readStringFrom, shortEscape?]
  · simp [readStringFrom, shortEscape?]
  · simp [readStringFrom, shortEscape?]
  · simp [readStringFrom, shortEscape?]
  · simp [readStringFrom, shortEscape?]
  · rename_i notQuote notBackslash _ _ _ _ _
    split
    · rename_i control
      have below : char.toNat < 32 := control
      simp only [List.cons_append, List.nil_append]
      rw [readStringFrom, hexUnit?_control below]
      simp only
      rw [if_neg (by omega), if_neg (by omega), Char.ofNat_toNat]
    · rename_i notControl
      exact readStringFrom_plain passed rest notQuote notBackslash notControl

/-- Reading passes over written characters up to the closing quote. -/
theorem readStringFrom_written (chars passed rest : List Char) :
    readStringFrom passed (chars.flatMap writeChar ++ '"' :: rest) =
      some (String.ofList (passed.reverse ++ chars), rest) := by
  induction chars generalizing passed with
  | nil => simp [readStringFrom]
  | cons char chars ih =>
      rw [List.flatMap_cons, List.append_assoc, readStringFrom_writeChar, ih]
      simp

/-- A written string reads back. -/
theorem readString?_written (text : String) (rest : List Char) :
    readString? (text.toList.flatMap writeChar ++ '"' :: rest) = some (text, rest) := by
  rw [readString?, readStringFrom_written]
  simp

end TableFlow.Json
