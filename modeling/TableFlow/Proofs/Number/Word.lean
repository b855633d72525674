import TableFlow.Number.Basic

/-!
# Words and integers

A word stands for one integer, and an integer has a word exactly if it lies in the range of the
words.
-/

namespace TableFlow

open TableFlow.Number

theorem word?_toInt (word : Int64) : word? word.toInt = some word := by
  have lower := word.le_toInt
  have upper := word.toInt_le
  rw [word?, if_pos, Int64.ofInt_toInt]
  constructor
  · exact lower
  · exact upper

theorem toInt_of_word? {value : Int} {word : Int64} (fits : word? value = some word) :
    word.toInt = value := by
  unfold word? at fits
  split at fits
  · rename_i range
    cases fits
    exact Int64.toInt_ofInt_of_le range.1 (Int.lt_of_le_of_lt range.2 (by decide))
  · contradiction

namespace Number

/-- An integer in the range of the words. -/
def IsWord (value : Int) : Prop :=
  leastWord ≤ value ∧ value ≤ greatestWord

instance (value : Int) : Decidable (IsWord value) :=
  inferInstanceAs (Decidable (_ ∧ _))

theorem isWord_toInt (word : Int64) : IsWord word.toInt :=
  ⟨word.le_toInt, word.toInt_le⟩

theorem exists_of_isWord {value : Int} (inside : IsWord value) : ∃ word, word? value = some word :=
  ⟨Int64.ofInt value, if_pos inside⟩

theorem word?_eq_none_iff {value : Int} : word? value = none ↔ ¬ IsWord value := by
  simp only [word?, IsWord, ite_eq_right_iff, reduceCtorEq, imp_false]

end Number

end TableFlow
