import TableFlow.Cell.Convert
import TableFlow.Proofs.Number.Reader
import TableFlow.Proofs.Number.Rounding
import TableFlow.Proofs.Text.Blank

/-!
# Cells converted to integers

A timestamp becomes an integer that counts nanoseconds, and a text becomes the integer that it
spells.  Either way an integer beyond the range of words leaves an empty cell.  Only texts are not
exact there: what is no word is read as a float, and the integers just outside the words are rounded
to a bound of the words.

Main statements: `convert_instants` and `convert_spelled_iff`.
-/

namespace TableFlow.Cell

open TableFlow.Number
open TableFlow.Text

/-- A cell stands for an integer: it holds the word that equals it, or it is empty since there is
none. -/
inductive Exact (value : Int) : Cell → Prop where
  | word {word : Int64} (equal : word.toInt = value) : Exact value (.integer word)
  | empty (outside : ¬ IsWord value) : Exact value .null

section Exactness

variable {value : Int} {cell : Cell}

theorem exact_ofInt? (value : Int) : Exact value (ofInt? value) := by
  unfold ofInt?
  split
  · rename_i word fits
    exact .word (toInt_of_word? fits)
  · rename_i outside
    exact .empty (word?_eq_none_iff.1 outside)

theorem Exact.eq_null_iff (stands : Exact value cell) : cell = .null ↔ ¬ IsWord value := by
  cases stands with
  | word equal => simp [← equal, isWord_toInt]
  | empty outside => simp [outside]

theorem Exact.isWord_of_integer {word : Int64} (stands : Exact value (.integer word)) :
    IsWord value := by
  cases stands with
  | word equal => exact equal ▸ isWord_toInt word

end Exactness

/-- The milliseconds of a word that counts nanoseconds. -/
def millisOf (nanos : Int64) : Int64 :=
  Int64.ofInt (nanos.toInt / nanosPerMilli)

theorem toInt_millisOf (nanos : Int64) : (millisOf nanos).toInt = nanos.toInt / 1000000 := by
  obtain ⟨lower, upper⟩ := isWord_toInt nanos
  rw [leastWord] at lower
  rw [greatestWord] at upper
  exact Int64.toInt_ofInt_of_le (by rw [nanosPerMilli]; omega) (by rw [nanosPerMilli]; omega)

theorem millisOf_mono {earlier later : Int64} (before : earlier ≤ later) :
    millisOf earlier ≤ millisOf later := by
  rw [Int64.le_iff_toInt_le] at before ⊢
  rw [toInt_millisOf, toInt_millisOf]
  omega

theorem toInt_millisOf_eq_floor (nanos : Int64) :
    (millisOf nanos).toInt = ⌊(nanos.toInt : ℚ) / 1000000⌋ := by
  rw [toInt_millisOf]
  exact_mod_cast (Rat.floor_intCast_div_natCast nanos.toInt 1000000).symm

theorem exact_convert_timestamp (millis : Int64) :
    Exact (millis.toInt * 1000000) (convert .integer (.timestamp millis)) :=
  exact_ofInt? _

theorem convert_date_convert_integer {millis : Int64}
    (nonempty : convert .integer (.timestamp millis) ≠ .null) :
    convert .date (convert .integer (.timestamp millis)) = .timestamp millis := by
  have stands := exact_convert_timestamp millis
  generalize convert .integer (.timestamp millis) = cell at *
  cases stands with
  | @word nanos equal =>
      have same : (millisOf nanos).toInt = millis.toInt := by
        rw [toInt_millisOf, equal]
        omega
      exact congrArg Cell.timestamp (Int64.toInt_inj.1 same)
  | empty outside => exact absurd rfl nonempty

theorem isGreatest_multiple (nanos : Int) :
    IsGreatest {other : Int | 1000000 ∣ other ∧ other ≤ nanos} (nanos / 1000000 * 1000000) := by
  constructor
  · exact ⟨Int.dvd_mul_left _ _, by omega⟩
  · rintro other ⟨divides, below⟩
    omega

/-- The multiple of a millisecond below a word can only be too small for a word. -/
theorem not_isWord_multiple_iff (nanos : Int64) :
    ¬ IsWord (nanos.toInt / 1000000 * 1000000) ↔ nanos.toInt / 1000000 * 1000000 < leastWord := by
  have upper := (isWord_toInt nanos).2
  rw [IsWord]
  omega

/-- A timestamp is converted to the integer that counts its nanoseconds and back.  An integer is
converted to the timestamp that it has reached, and back to the greatest count of full milliseconds
that is not above it. -/
theorem convert_instants :
    (∀ millis : Int64,
      Exact (millis.toInt * 1000000) (convert .integer (.timestamp millis)) ∧
        (convert .integer (.timestamp millis) ≠ .null →
          convert .date (convert .integer (.timestamp millis)) = .timestamp millis)) ∧
    ∃ instant : Int64 → Int64,
      (∀ earlier later, earlier ≤ later → instant earlier ≤ instant later) ∧
        ∀ nanos : Int64,
          convert .date (.integer nanos) = .timestamp (instant nanos) ∧
            (instant nanos).toInt = ⌊(nanos.toInt : ℚ) / 1000000⌋ ∧
            ∃ multiple : Int,
              IsGreatest {other : Int | 1000000 ∣ other ∧ other ≤ nanos.toInt} multiple ∧
                Exact multiple (convert .integer (.timestamp (instant nanos))) ∧
                (convert .integer (.timestamp (instant nanos)) = .null ↔ multiple < leastWord) := by
  refine ⟨fun millis => ⟨exact_convert_timestamp millis, convert_date_convert_integer⟩, millisOf,
    fun _ _ => millisOf_mono, fun nanos => ⟨rfl, toInt_millisOf_eq_floor nanos, ?_⟩⟩
  have stands := exact_convert_timestamp (millisOf nanos)
  rw [toInt_millisOf] at stands
  exact ⟨_, isGreatest_multiple nanos.toInt, stands,
    stands.eq_null_iff.trans (not_isWord_multiple_iff nanos)⟩

/-- Half a second before 1970, there and back. -/
theorem convert_instants_halfSecond :
    convert .integer (.timestamp (-500)) = .integer (-500000000) ∧
      convert .date (convert .integer (.timestamp (-500))) = .timestamp (-500) := by
  have there : convert .integer (.timestamp (-500)) = .integer (-500000000) := rfl
  exact ⟨there, (convert_instants.1 (-500)).2 (by simp [there])⟩

/-- A text that spells an integer, with something around it. -/
def spelled (before : List Char) (value : Int) (after : List Char) : Cell :=
  .text (String.ofList (before ++ (intText value).toList ++ after))

/-- An integer that is no word, while the float nearest to it is a bound of the words. -/
def JustOutside (value : Int) : Prop :=
  ¬ IsWord value ∧ leastWord - 1024 ≤ value ∧ value ≤ greatestWord + 1025

instance (value : Int) : Decidable (JustOutside value) :=
  inferInstanceAs (Decidable (_ ∧ _))

/-- Near the upper bound of the words floats lie 2048 apart, and half of that is rounded down. -/
theorem roundWhole_of_le {value : Nat} (least : 2 ^ 63 ≤ value) (near : value ≤ 2 ^ 63 + 1024) :
    roundWhole value = 2 ^ 63 := by
  have log : value.log2 = 63 := (Nat.log2_eq_iff (by omega)).2 (by omega)
  have quotient : value / 2048 = 2 ^ 52 := by omega
  have grain : 2 ^ (63 - 52) = 2048 := by decide
  simp only [roundWhole, nearestQuotient, log, grain, quotient]
  split
  · rfl
  · split
    · rfl
    · omega

theorem lt_roundWhole {value : Nat} (beyond : 2 ^ 63 + 1024 < value) :
    2 ^ 63 < roundWhole value := by
  rcases Nat.lt_or_ge value (2 ^ 64) with below | above
  · have log : value.log2 = 63 := (Nat.log2_eq_iff (by omega)).2 (by omega)
    have grain : 2 ^ (63 - 52) = 2048 := by decide
    simp only [roundWhole, nearestQuotient, log, grain]
    split
    · omega
    · split <;> omega
  · have reached : 64 ≤ value.log2 := (Nat.le_log2 (by omega)).2 above
    calc
      2 ^ 63 < 2 ^ 64 := by decide
      _ ≤ 2 ^ value.log2 := Nat.pow_le_pow_right (by decide) reached
      _ ≤ roundWhole value := two_pow_log2_le_roundWhole (by omega)

/-- A large whole number that is read as a float is cut to a bound of the words, or is lost. -/
theorem truncated_nearestFloat {magnitude : Nat} (large : 2 ^ 63 ≤ magnitude) (negative : Bool) :
    truncated (nearestFloat negative magnitude 0) =
      if magnitude ≤ 2 ^ 63 + 1024 then
        .integer (Int64.ofInt (if negative then leastWord else greatestWord))
      else .null := by
  rw [truncated, truncate?_nearestFloat (by omega)]
  by_cases near : magnitude ≤ 2 ^ 63 + 1024
  · rw [roundWhole_of_le large near, if_pos near, Nat.log2_two_pow, if_pos (by decide)]
    cases negative <;> rfl
  · have beyond := lt_roundWhole (Nat.lt_of_not_le near)
    rw [if_neg near]
    generalize roundWhole magnitude = whole at beyond
    have outside : ¬ (leastWord ≤ (if negative then -(whole : Int) else whole) ∧
        (if negative then -(whole : Int) else whole) ≤ greatestWord + 1) := by
      rw [leastWord, greatestWord]
      split <;> omega
    by_cases small : whole.log2 < 1024
    · simp only [if_pos small, if_neg outside]
    · simp only [if_neg small]

theorem nearestWord_of_outside {value : Int} (outside : ¬ IsWord value) :
    nearestWord value = Int64.ofInt (if value < 0 then leastWord else greatestWord) := by
  rw [IsWord, leastWord, greatestWord] at outside
  unfold nearestWord
  split
  · rename_i below
    rw [leastWord] at below
    rw [if_pos (by omega)]
  · rename_i notBelow
    rw [leastWord] at notBelow
    rw [if_pos (by rw [greatestWord]; omega), if_neg (by omega)]

section Spelled

variable {before after : List Char} (blankBefore : ∀ char ∈ before, isBlank char = true)
  (blankAfter : ∀ char ∈ after, isBlank char = true)

include blankBefore blankAfter

/-- What is no word is read as a float. -/
theorem convert_spelled (value : Int) :
    convert .integer (spelled before value after) =
      ((word? value).map Cell.integer).getD
        (truncated (nearestFloat (decide (value < 0)) value.natAbs 0)) := by
  have visible := visibleEnds_intText value
  have trimmed := trimChars_surrounded blankBefore blankAfter visible.starts visible.ends
  simp only [convert, spelled, toInteger, String.toList_ofList, trimmed, readWord?_intText,
    readFloat?_intText]
  cases word? value <;> rfl

theorem convert_spelled_of_word {value : Int} {word : Int64} (fits : word? value = some word) :
    convert .integer (spelled before value after) = .integer word := by
  rw [convert_spelled blankBefore blankAfter, fits, Option.map_some, Option.getD_some]

theorem convert_spelled_of_outside {value : Int} (outside : ¬ IsWord value) :
    convert .integer (spelled before value after) =
      if JustOutside value then .integer (nearestWord value) else .null := by
  have large : 2 ^ 63 ≤ value.natAbs := by
    rw [IsWord, leastWord, greatestWord] at outside
    omega
  have edge : value.natAbs ≤ 2 ^ 63 + 1024 ↔ JustOutside value := by
    rw [JustOutside, and_iff_right outside, leastWord, greatestWord]
    omega
  rw [convert_spelled blankBefore blankAfter, word?_eq_none_iff.2 outside, Option.map_none,
    Option.getD_none, truncated_nearestFloat large, nearestWord_of_outside outside]
  simp only [edge, decide_eq_true_eq]

/-- A text that spells an integer, with blanks around it, is converted to exactly that integer
unless the integer is just outside the words.  There it is converted to the bound of the words that
is nearest.  A word comes back from its own text. -/
theorem convert_spelled_iff (value : Int) :
    (Exact value (convert .integer (spelled before value after)) ↔ ¬ JustOutside value) ∧
      (JustOutside value →
        convert .integer (spelled before value after) = .integer (nearestWord value)) ∧
      ∀ word : Int64, convert .integer (convert .text (.integer word)) = .integer word := by
  refine ⟨?_, ?_, ?_⟩
  · by_cases inside : IsWord value
    · obtain ⟨word, fits⟩ := exists_of_isWord inside
      rw [convert_spelled_of_word blankBefore blankAfter fits]
      exact iff_of_true (.word (toInt_of_word? fits)) fun near => near.1 inside
    · rw [convert_spelled_of_outside blankBefore blankAfter inside]
      split
      · rename_i near
        exact iff_of_false (fun stands => inside stands.isWord_of_integer) (not_not_intro near)
      · rename_i far
        exact iff_of_true (.empty inside) far
  · intro near
    rw [convert_spelled_of_outside blankBefore blankAfter near.1, if_pos near]
  · intro word
    have spelling : convert .text (.integer word) = spelled [] word.toInt [] := by
      rw [spelled, List.nil_append, List.append_nil, String.ofList_toList]
      rfl
    rw [spelling]
    exact convert_spelled_of_word (List.forall_mem_nil _) (List.forall_mem_nil _) (word?_toInt word)

end Spelled

/-- Beyond half the distance to the next float nothing is left. -/
theorem convert_spelled_iff_farOutside :
    ¬ JustOutside 9223372036854776833 ∧
      Exact 9223372036854776833 (convert .integer (spelled ['\t'] 9223372036854776833 [' '])) := by
  have blankBefore : ∀ char ∈ ['\t'], isBlank char = true := List.forall_mem_singleton.2 (by decide)
  have blankAfter : ∀ char ∈ [' '], isBlank char = true := List.forall_mem_singleton.2 (by decide)
  have far : ¬ JustOutside 9223372036854776833 := by decide
  exact ⟨far, (convert_spelled_iff blankBefore blankAfter _).1.2 far⟩

/-- One more than the greatest word is read as the greatest word. -/
theorem convert_spelled_nextWord :
    ¬ IsWord 9223372036854775808 ∧
      convert .integer (.text "9223372036854775808") = .integer 9223372036854775807 ∧
      ¬ Exact 9223372036854775808 (convert .integer (.text "9223372036854775808")) := by
  have outside : ¬ IsWord 9223372036854775808 := by decide
  have spelling : Cell.text "9223372036854775808" = spelled [] 9223372036854775808 [] := rfl
  have read : convert .integer (.text "9223372036854775808") = .integer 9223372036854775807 := by
    rw [spelling,
      convert_spelled_of_outside (List.forall_mem_nil _) (List.forall_mem_nil _) outside,
      if_pos (by decide)]
    rfl
  refine ⟨outside, read, ?_⟩
  rw [read]
  intro stands
  exact outside stands.isWord_of_integer

end TableFlow.Cell
