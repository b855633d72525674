import TableFlow.Cell.Convert
import TableFlow.Proofs.Calendar.Stamp
import TableFlow.Proofs.Text.Blank

/-!
# Timestamps as texts

A timestamp in the calendar is converted to a text that shows its date and time down to seconds,
with a sign before the years that have not four digits.  Converted back, the text gives the same
timestamp without its milliseconds.  Outside the calendar the text is a bare number, which is no
date.

Main statement: `Cell.convert_date_convert_text`.
-/

namespace TableFlow

namespace Calendar

open TableFlow.Number
open TableFlow.Text

/-- Two digits are printed for a number below a hundred. -/
theorem padTwo_zeros {value : Nat} (small : value < 100) :
    padTwo .zeros value = fixedDigits 2 value := by
  have tensDigit : ∀ tens < 10, Char.ofNat ('0'.toNat + tens) = Nat.digitChar (tens % 10) := by
    decide
  have shape : padTwo .zeros value =
      [Char.ofNat ('0'.toNat + value / 10), Nat.digitChar (value % 10)] := by
    unfold padTwo
    cases value / 10 <;> rfl
  rw [shape, tensDigit (value / 10) (by omega)]
  rfl

theorem isDecimal_fill (width value : Nat) :
    IsDecimal (fill '0' width (Nat.toDigits 10 value)) value :=
  (isDecimal_toDigits value).zeros _

theorem fill_ne_nil (width value : Nat) : fill '0' width (Nat.toDigits 10 value) ≠ [] := by
  intro empty
  exact Nat.toDigits_ne_nil (List.append_eq_nil_iff.1 empty).2

/-- Every year is spelled by its print, with or without a sign. -/
theorem spells_padYear (year : Int) : Spells .year year (padYear .zeros year) := by
  unfold padYear
  split
  · rename_i fourDigits
    have shape : padInt .zeros 4 false year = fill '0' 4 (Nat.toDigits 10 year.natAbs) := by
      simp [padInt, Int.not_lt.2 fourDigits.1]
    have short : (Nat.toDigits 10 year.natAbs).length ≤ 4 :=
      (Nat.length_toDigits_le_iff (by decide) (by decide)).2 (by omega)
    have fits : (fill '0' 4 (Nat.toDigits 10 year.natAbs)).length ≤ Field.width .year := by
      rw [fill, List.length_append, List.length_replicate, Field.width]
      omega
    have value : ((year.natAbs : Nat) : Int) = year := by omega
    have spells := spells_of_isDecimal (isDecimal_fill 4 year.natAbs)
      (fill_ne_nil 4 year.natAbs) fits rfl
    rw [shape]
    rwa [value] at spells
  · rename_i others
    obtain ⟨minus, plus⟩ := spells_signed (isDecimal_fill 4 year.natAbs) (fill_ne_nil 4 year.natAbs)
    by_cases negative : year < 0
    · have shape : padInt .zeros 5 true year = '-' :: fill '0' 4 (Nat.toDigits 10 year.natAbs) := by
        simp [padInt, negative]
      have value : -((year.natAbs : Nat) : Int) = year := by omega
      rw [shape]
      rwa [value] at minus
    · have shape : padInt .zeros 5 true year = '+' :: fill '0' 4 (Nat.toDigits 10 year.natAbs) := by
        simp [padInt, negative]
      have value : ((year.natAbs : Nat) : Int) = year := by omega
      rw [shape]
      rwa [value] at plus

/-- The part of a pattern that shows a field. -/
def Field.numberPart : Field → NumberPart
  | .year => .year
  | .month => .month
  | .day => .day
  | .hour => .hour
  | .minute => .minute
  | .second => .second

/-- The numbers of a moment as they are printed with zeros in front. -/
def Moment.printed (moment : Moment) (field : Field) : List Char :=
  field.numberPart.print .zeros moment

theorem Moment.IsProper.spelledBy_printed {moment : Moment} (proper : moment.IsProper) :
    moment.SpelledBy moment.printed := by
  have pair {field : Field} {value : Nat} (wide : field.width = 2)
      (admitted : field.admits value = true) (small : value < 100) :
      Spells field value (padTwo .zeros value) := by
    rw [padTwo_zeros small]
    have length := length_fixedDigits 2 value
    refine spells_of_isDecimal (isDecimal_fixedDigits small) ?_ ?_ admitted
    · exact List.ne_nil_of_length_eq_add_one length
    · exact Nat.le_of_eq (length.trans wide.symm)
  have monthLe := proper.date.month_le
  have dayLe := proper.date.day_le_longest
  have hourLt := proper.hour_lt
  have minuteLt := proper.minute_lt
  have secondLt := proper.second_lt
  intro field
  have admitted := proper.admits field
  cases field with
  | year => exact spells_padYear moment.date.year
  | _ => exact pair rfl admitted (by omega)

/-- The text of a moment is what a layout writes. -/
theorem showMoment_timestampItems (moment : Moment) :
    showMoment timestampItems moment =
      String.ofList (writeLayout moment.printed moment.milli (stampPieces .blanks .second)) :=
  rfl

theorem trimChars_intText (value : Int) :
    trimChars (intText value).toList = (intText value).toList :=
  trimChars_eq_self (visibleEnds_intText value).starts (visibleEnds_intText value).ends

theorem trimChars_stamp {moment : Moment} (proper : moment.IsProper) :
    trimChars (writeLayout moment.printed moment.milli (stampPieces .blanks .second)) =
      writeLayout moment.printed moment.milli (stampPieces .blanks .second) := by
  obtain ⟨first, others, year, visible⟩ := (proper.spelledBy_printed .year).visible
  have seconds : moment.printed .second =
      fixedDigits 1 (moment.second / 10) ++ [Nat.digitChar (moment.second % 10)] :=
    padTwo_zeros (Nat.lt_trans proper.second_lt (by decide))
  have front : writeLayout moment.printed moment.milli (stampPieces .blanks .second) =
      moment.printed .year ++
        writeLayout moment.printed moment.milli (stampPieces .blanks .second).tail :=
    rfl
  have back : writeLayout moment.printed moment.milli (stampPieces .blanks .second) =
      writeLayout moment.printed moment.milli (stampPieces .blanks .second).dropLast ++
        moment.printed .second := by
    have last :
        moment.printed .second = writeLayout moment.printed moment.milli [.number .second] :=
      (writeLayout_singleton moment.printed moment.milli (.number .second)).symm
    rw [last, ← writeLayout_append]
    rfl
  apply trimChars_eq_self
  · rw [front, year]
    rintro char ⟨⟩
    exact visible
  · rw [back, seconds, ← List.append_assoc, List.getLast?_concat]
    rintro char ⟨⟩
    exact not_isBlank_of_isDigit (isDigit_digitChar (Nat.mod_lt _ (by decide)))

/-- A text with at most one dash, without colons and slashes, is no date unless it is a year. -/
theorem readInstant?_eq_readYear? {chars : List Char}
    (absent : ∀ char ∈ ['Z', 'z', ':', '/'], chars.count char = 0) (oneDash : chars.count '-' < 2) :
    readInstant? chars = readYear? chars := by
  have slash : chars.count '/' = 0 := absent '/' (by simp)
  have noDate : dateLayouts.findSome? (instantIn? chars) = none := by
    have asked : dateLayouts.all (fun layout =>
        2 ≤ layout.count (.literal '-') || 0 < layout.count (.literal '/')) = true := by decide
    rw [List.findSome?_eq_none_iff]
    intro layout inside
    have signs := List.all_eq_true.1 asked layout inside
    rw [Bool.or_eq_true, decide_eq_true_eq, decide_eq_true_eq] at signs
    rcases signs with dashes | slashes
    · exact instantIn?_of_fewer (Nat.lt_of_lt_of_le oneDash dashes)
    · exact instantIn?_of_fewer (Nat.lt_of_le_of_lt (Nat.le_of_eq slash) slashes)
  rw [readInstant?_without_time, noDate, Option.none_or]
  intro char inside
  exact absent char (List.mem_append_left ['/'] inside)

/-- A number outside the calendar is no date. -/
theorem readInstant?_intText {millis : Int} (outside : isRepresentable millis = false) :
    readInstant? (intText millis).toList = none := by
  have noDigits : ∀ char ∈ ['Z', 'z', ':', '/'], isDigit char = false := by
    have each : ['Z', 'z', ':', '/'].all (fun char => !isDigit char) = true := by decide
    intro char inside
    simpa using List.all_eq_true.1 each char inside
  cases millis with
  | ofNat magnitude =>
      have decimal := isDecimal_toDigits magnitude
      have large : ¬ magnitude < 10000 := by
        intro small
        have inside : isRepresentable magnitude = true := by
          rw [isRepresentable_iff_between, leastInstant, greatestInstant]
          omega
        exact Bool.false_ne_true (outside.symm.trans inside)
      have long : ¬ (Nat.toDigits 10 magnitude).length ≤ 4 := by
        rwa [Nat.length_toDigits_le_iff (by decide) (by decide)]
      have noDash : (Nat.toDigits 10 magnitude).count '-' < 2 := by
        rw [decimal.count_eq_zero (by decide)]
        decide
      rw [intText, String.toList_ofList, readInstant?_eq_readYear?
        (fun char inside => decimal.count_eq_zero (noDigits char inside)) noDash, readYear?, if_neg]
      rintro ⟨four, -⟩
      omega
  | negSucc magnitude =>
      have decimal := isDecimal_toDigits (magnitude + 1)
      have absent : ∀ char ∈ ['Z', 'z', ':', '/'],
          ('-' :: Nat.toDigits 10 (magnitude + 1)).count char = 0 := by
        intro char inside
        have notDash : '-' ≠ char := by
          rintro rfl
          exact absurd inside (by decide)
        rw [List.count_cons_of_ne notDash, decimal.count_eq_zero (noDigits char inside)]
      have oneDash : ('-' :: Nat.toDigits 10 (magnitude + 1)).count '-' < 2 := by
        rw [List.count_cons_self, decimal.count_eq_zero (by decide)]
        decide
      rw [intText, String.toList_ofList, readInstant?_eq_readYear? absent oneDash, readYear?,
        if_neg]
      have notDigit : isDigit '-' = false := by decide
      rintro ⟨-, digits⟩
      rw [List.all_cons, notDigit] at digits
      exact Bool.false_ne_true digits

/-- The text of an instant in the calendar is read down to seconds. -/
theorem readInstant?_instantText {millis : Int} (representable : isRepresentable millis = true) :
    readInstant? (trimChars (instantText millis).toList) = some (1000 * (millis / 1000)) := by
  have proper := Moment.isProper_ofMillis millis
  have same := Moment.millis_ofMillis millis
  have valid := isValid_ofMillis representable
  have text : instantText millis = showMoment timestampItems (Moment.ofMillis millis) := by
    rw [instantText, Moment.ofMillis?, if_pos representable]
  rw [text, showMoment_timestampItems, String.toList_ofList, trimChars_stamp proper,
    readInstant?_stamp proper.spelledBy_printed proper valid (.inr rfl), Moment.floor, same,
    Precision.unit, Int.mul_comm]

end Calendar

namespace Cell

open TableFlow.Calendar
open TableFlow.Number

/-- A timestamp that is converted to text and back loses its milliseconds, and is lost if it lies
outside the calendar. -/
theorem convert_date_convert_text (millis : Int64) :
    Cell.convert .date (Cell.convert .text (.timestamp millis)) =
      if isRepresentable millis.toInt then .timestamp (Int64.ofInt (1000 * (millis.toInt / 1000)))
      else .null := by
  have there : Cell.convert .date (Cell.convert .text (.timestamp millis)) =
      dateOfText (Text.trimChars (instantText millis.toInt).toList) := rfl
  rw [there, dateOfText]
  by_cases representable : isRepresentable millis.toInt = true
  · obtain ⟨least, greatest⟩ := isRepresentable_iff_between.1 representable
    have fits : word? (1000 * (millis.toInt / 1000)) =
        some (Int64.ofInt (1000 * (millis.toInt / 1000))) := by
      rw [leastInstant] at least
      exact word?_instant (by rw [leastInstant]; omega) (by omega)
    rw [readInstant?_instantText representable, Option.bind_some, fits, if_pos representable]
  · have outside := eq_false_of_ne_true representable
    have text : instantText millis.toInt = intText millis.toInt := by
      rw [instantText, Moment.ofMillis?, if_neg representable]
    rw [text, trimChars_intText, readInstant?_intText outside, Option.bind_none,
      if_neg representable]

end Cell

end TableFlow
