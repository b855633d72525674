import TableFlow.Proofs.Calendar.Stamp

/-!
# Texts that denote an instant

A date, a time of the day and an offset from universal time can be written in many ways.  Each of
them stands for the instant of the moment, rounded down to the smallest unit that is written, less
the offset.  All of them are read as the instant they stand for: no layout that is tried earlier
takes a text for something else.

Main statement: `readInstant_of_denotes`.
-/

namespace TableFlow.Calendar

open TableFlow.Number
open TableFlow.Text

/-- Year, month and day in four, two and two digits. -/
def Date.yearFirst (separator : Char) (date : Date) : List Char :=
  fixedDigits 4 date.year.toNat ++ [separator] ++ fixedDigits 2 date.month ++ [separator] ++
    fixedDigits 2 date.day

/-- Month, day and year with slashes. -/
def Date.monthFirst (date : Date) : List Char :=
  fixedDigits 2 date.month ++ ['/'] ++ fixedDigits 2 date.day ++ ['/'] ++
    fixedDigits 4 date.year.toNat

namespace Moment

/-- Hours and minutes. -/
def shortClock (moment : Moment) : List Char :=
  fixedDigits 2 moment.hour ++ [':'] ++ fixedDigits 2 moment.minute

/-- Hours, minutes and seconds. -/
def fullClock (moment : Moment) : List Char :=
  moment.shortClock ++ [':'] ++ fixedDigits 2 moment.second

/-- The time of the day down to a unit; milliseconds have three digits behind a point. -/
def clock (moment : Moment) : Precision → List Char
  | .minute => moment.shortClock
  | .second => moment.fullClock
  | .milli => moment.fullClock ++ ['.'] ++ fixedDigits 3 moment.milli

end Moment

def offsetDigits (hours minutes : Nat) : List Char :=
  fixedDigits 2 hours ++ [':'] ++ fixedDigits 2 minutes

/-- The milliseconds of an offset. -/
def offsetMillis (hours minutes : Nat) : Int :=
  (hours * 60 + minutes) * 60000

/-- The texts that can be written for a moment, each with the instant that it stands for. -/
inductive Denotes (moment : Moment) : List Char → Int → Prop where
  | marked (precision : Precision) :
      Denotes moment (moment.date.yearFirst '-' ++ ['T'] ++ moment.clock precision)
        (moment.floor precision)
  | spaced (precision : Precision) :
      Denotes moment (moment.date.yearFirst '-' ++ [' '] ++ moment.clock precision)
        (moment.floor precision)
  | universal (precision : Precision) (fine : precision ≠ .minute) :
      Denotes moment (moment.date.yearFirst '-' ++ ['T'] ++ moment.clock precision ++ ['Z'])
        (moment.floor precision)
  | ahead (precision : Precision) (fine : precision ≠ .minute) (hours minutes : Nat)
      (hoursLt : hours < 24) (minutesLt : minutes < 60) :
      Denotes moment
        (moment.date.yearFirst '-' ++ ['T'] ++ moment.clock precision ++ ['+'] ++
          offsetDigits hours minutes)
        (moment.floor precision - offsetMillis hours minutes)
  | behind (precision : Precision) (fine : precision ≠ .minute) (hours minutes : Nat)
      (hoursLt : hours < 24) (minutesLt : minutes < 60) :
      Denotes moment
        (moment.date.yearFirst '-' ++ ['T'] ++ moment.clock precision ++ ['-'] ++
          offsetDigits hours minutes)
        (moment.floor precision + offsetMillis hours minutes)
  | dashedDate : Denotes moment (moment.date.yearFirst '-') moment.date.midnight
  | monthFirst : Denotes moment moment.date.monthFirst moment.date.midnight
  | slashedDate : Denotes moment (moment.date.yearFirst '/') moment.date.midnight
  | year : Denotes moment (fixedDigits 4 moment.date.year.toNat)
      (Date.midnight ⟨moment.date.year, 1, 1⟩)

/-- The numbers of a moment in all the digits that their fields have. -/
def Moment.padded (moment : Moment) (field : Field) : List Char :=
  fixedDigits field.width (moment.part field).toNat

/-- Where numbers have no signs, a dash is as good as any other character between them. -/
theorem Moment.areSigns_padded (moment : Moment) (signs : List Char)
    (apart : signs.all (fun char => !isDigit char && char != ' ' && char != '.') = true) :
    ∀ char ∈ signs, IsSign moment.padded char := by
  intro char inside
  have each := List.all_eq_true.1 apart char inside
  simp only [Bool.and_eq_true, bne_iff_ne, Bool.not_eq_true'] at each
  obtain ⟨⟨notDigit, notBlank⟩, notPoint⟩ := each
  exact ⟨fun _ => not_mem_fixedDigits notDigit, notDigit, notBlank, notPoint⟩

/-- A proper moment in a year of four digits. -/
structure Moment.IsPlain (moment : Moment) : Prop where
  proper : moment.IsProper
  year_nonneg : 0 ≤ moment.date.year
  year_le : moment.date.year ≤ 9999

namespace Moment.IsPlain

variable {moment : Moment} (plain : moment.IsPlain)

include plain

theorem part_nonneg (field : Field) : 0 ≤ moment.part field := by
  have year := plain.year_nonneg
  cases field with
  | year => exact year
  | _ => exact Int.natCast_nonneg _

theorem part_lt (field : Field) : (moment.part field).toNat < tenTo field.width := by
  have yearLe := plain.year_le
  have admitted := plain.proper.admits field
  cases field with
  | year =>
      have bound : tenTo (Field.width .year) = 10000 := rfl
      rw [bound, Moment.part]
      omega
  | _ =>
      have bound : tenTo 2 = 100 := rfl
      simp only [Field.admits, Bool.and_eq_true, decide_eq_true_eq] at admitted
      rw [Field.width_of_ne (by decide), bound]
      omega

theorem isDecimal_padded (field : Field) :
    IsDecimal (moment.padded field) (moment.part field).toNat :=
  isDecimal_fixedDigits (plain.part_lt field)

theorem spelledBy_padded : moment.SpelledBy moment.padded := by
  intro field
  have length := length_fixedDigits field.width (moment.part field).toNat
  have nonempty : moment.padded field ≠ [] := by
    rw [← List.length_pos_iff, Moment.padded, length]
    cases field <;> decide
  have value := Int.toNat_of_nonneg (plain.part_nonneg field)
  have admitted := plain.proper.admits field
  rw [← value] at admitted ⊢
  exact spells_of_isDecimal (plain.isDecimal_padded field) nonempty (Nat.le_of_eq length) admitted

theorem isValid_date : moment.date.isValid = true := by
  have yearNonneg := plain.year_nonneg
  have yearLe := plain.year_le
  rw [Date.isValid_iff, leastYear, greatestYear]
  exact ⟨plain.proper.date, by omega, by omega⟩

end Moment.IsPlain

/-- The pieces of a date that starts with the year. -/
def yearFirstPieces (separator : Char) : List Piece :=
  [.number .year, .literal separator, .number .month, .literal separator, .number .day]

/-- The pieces of a date that starts with the month. -/
def monthFirstPieces : List Piece :=
  [.number .month, .literal '/', .number .day, .literal '/', .number .year]

section Texts

variable (moment : Moment)

theorem yearFirst_eq (separator : Char) :
    moment.date.yearFirst separator =
      writeLayout moment.padded moment.milli (yearFirstPieces separator) := by
  simp [Date.yearFirst, yearFirstPieces, writeLayout, Piece.write, Moment.padded, Moment.part,
    Field.width]

theorem monthFirst_eq :
    moment.date.monthFirst = writeLayout moment.padded moment.milli monthFirstPieces := by
  simp [Date.monthFirst, monthFirstPieces, writeLayout, Piece.write, Moment.padded, Moment.part,
    Field.width]

theorem clock_eq (precision : Precision) :
    moment.clock precision = writeLayout moment.padded moment.milli precision.pieces := by
  cases precision <;>
    simp [Moment.clock, Moment.fullClock, Moment.shortClock, Precision.pieces, fullTime, shortTime,
      writeLayout, Piece.write, Moment.padded, Moment.part, Field.width]

theorem stamp_eq (mark : Piece) {sign : Char}
    (writes : mark.write moment.padded moment.milli = [sign]) (precision : Precision) :
    moment.date.yearFirst '-' ++ [sign] ++ moment.clock precision =
      writeLayout moment.padded moment.milli (stampPieces mark precision) := by
  rw [yearFirst_eq, clock_eq, ← writes, stampPieces, writeLayout_append, writeLayout_append,
    writeLayout_singleton]
  rfl

end Texts

section Dates

variable {moment : Moment}

/-- A text without colons is left to the layouts of a date alone. -/
theorem readInstant?_write_date {layout : List Piece}
    (absent : ['Z', 'z', ':'].all (fun char => layout.count (.literal char) = 0) = true) :
    readInstant? (writeLayout moment.padded moment.milli layout) =
      (dateLayouts.findSome? (instantIn? (writeLayout moment.padded moment.milli layout))).or
        (readYear? (writeLayout moment.padded moment.milli layout)) := by
  have areSigns : ∀ char ∈ ['Z', 'z', ':'], IsSign moment.padded char :=
    moment.areSigns_padded _ (by decide)
  apply readInstant?_without_time
  intro char inside
  rw [(areSigns char inside).count_write]
  exact of_decide_eq_true (List.all_eq_true.1 absent char inside)

/-- A layout reads the dates that are written by it. -/
theorem instantIn?_date (plain : moment.IsPlain) (layout : List Piece)
    (separated : isSeparated layout = true)
    (recorded : layout.foldl (Reading.record moment) {} =
      { year := moment.date.year, month := moment.date.month, day := moment.date.day }) :
    instantIn? (writeLayout moment.padded moment.milli layout) layout =
      some moment.date.midnight := by
  have optional : ∀ reading, readLayout? [] reading [] = some reading := fun _ => rfl
  have read := instantIn?_write plain.spelledBy_padded plain.proper.milli_lt separated optional
  rwa [List.append_nil, recorded, Reading.instant?_date plain.isValid_date] at read

theorem readInstant?_dashed (plain : moment.IsPlain) :
    readInstant? (moment.date.yearFirst '-') = some moment.date.midnight := by
  have read := instantIn?_date plain (yearFirstPieces '-') (by decide) rfl
  have found : dateLayouts.find? (fun other => !lacksSign ['-', '/'] (yearFirstPieces '-') other) =
      some (yearFirstPieces '-') := by decide
  rw [yearFirst_eq, readInstant?_write_date (by decide),
    findSome?_eq_some (moment.areSigns_padded _ (by decide)) found read, Option.some_or]

theorem readInstant?_monthFirst (plain : moment.IsPlain) :
    readInstant? moment.date.monthFirst = some moment.date.midnight := by
  have read := instantIn?_date plain monthFirstPieces (by decide) rfl
  have found : dateLayouts.find? (fun other => !lacksSign ['-', '/'] monthFirstPieces other) =
      some monthFirstPieces := by decide
  rw [monthFirst_eq, readInstant?_write_date (by decide),
    findSome?_eq_some (moment.areSigns_padded _ (by decide)) found read, Option.some_or]

/-- A number of two digits is not read where a third digit stands in the place of the character
behind it. -/
theorem readLayout?_third_digit {field : Field} (other : field ≠ .year)
    {sign first second third : Char} (notDigit : isDigit sign = false) {row rest : List Char}
    (later : List Piece) (reading : Reading)
    (digits : ∀ char ∈ first :: second :: third :: row, isDigit char = true) :
    readLayout? (.number field :: .literal sign :: later) reading
      (first :: second :: third :: row ++ rest) = none := by
  have firstDigit := digits first (by simp)
  have secondDigit := digits second (by simp)
  have thirdDigit := digits third (by simp)
  have taken : takeNumber? 1 2 (first :: second :: third :: row ++ rest) =
      some (digitsValue [first, second], third :: row ++ rest) := by
    simp [takeNumber?, firstDigit, secondDigit]
  have visible : trimStart (first :: second :: third :: row ++ rest) =
      first :: second :: third :: row ++ rest := by
    simp [trimStart, not_isBlank_of_isDigit firstDigit]
  have differs : third ≠ sign := by
    rintro rfl
    exact Bool.false_ne_true (notDigit.symm.trans thirdDigit)
  rw [readLayout?, visible, takeField?_of_ne other, taken, Option.map_some]
  by_cases admitted : field.admits (digitsValue [first, second]) = true
  · rw [Option.filter_some_pos]
    · exact if_neg differs
    · exact admitted
  · rw [Option.filter_some_neg]
    exact eq_false_of_ne_true admitted

/-- A year of four digits is not taken for a month. -/
theorem instantIn?_monthFirst_slashed (plain : moment.IsPlain) :
    instantIn? (moment.date.yearFirst '/') monthFirstPieces = none := by
  have year := (plain.isDecimal_padded .year).digits
  obtain ⟨first, second, third, row, shape⟩ :
      ∃ first second third row, moment.padded .year = first :: second :: third :: row :=
    ⟨_, _, _, _, rfl⟩
  have front : moment.date.yearFirst '/' = first :: second :: third :: row ++
      ('/' :: fixedDigits 2 moment.date.month ++ '/' :: fixedDigits 2 moment.date.day) := by
    rw [← shape]
    simp [Date.yearFirst, Moment.padded, Moment.part, Field.width]
  rw [shape] at year
  rw [front, instantIn?, monthFirstPieces,
    readLayout?_third_digit (by decide) (by decide) _ _ year]
  rfl

theorem readInstant?_slashed (plain : moment.IsPlain) :
    readInstant? (moment.date.yearFirst '/') = some moment.date.midnight := by
  have read := instantIn?_date plain (yearFirstPieces '/') (by decide) rfl
  have asMonth := instantIn?_monthFirst_slashed plain
  have noDash : instantIn? (moment.date.yearFirst '/') dashedDate = none := by
    rw [yearFirst_eq]
    exact instantIn?_eq_none (moment.areSigns_padded ['-'] (by decide)) (by decide)
  have found : dateLayouts.findSome? (instantIn? (moment.date.yearFirst '/')) =
      some moment.date.midnight := by
    rw [← yearFirst_eq] at read
    change [dashedDate, monthFirstPieces, yearFirstPieces '/'].findSome? _ = _
    rw [List.findSome?_cons, noDash, List.findSome?_cons, asMonth, List.findSome?_cons, read]
  rw [yearFirst_eq] at found ⊢
  rw [readInstant?_write_date (by decide), found, Option.some_or]

/-- A bare year is read as its first instant. -/
theorem readInstant?_year (plain : moment.IsPlain) :
    readInstant? (fixedDigits 4 moment.date.year.toNat) =
      some (Date.midnight ⟨moment.date.year, 1, 1⟩) := by
  have written : fixedDigits 4 moment.date.year.toNat =
      writeLayout moment.padded moment.milli [.number .year] :=
    (writeLayout_singleton moment.padded moment.milli (.number .year)).symm
  have noDate :
      dateLayouts.findSome? (instantIn? (fixedDigits 4 moment.date.year.toNat)) = none := by
    rw [written]
    exact findSome?_eq_none (moment.areSigns_padded ['-', '/'] (by decide)) (by decide)
  have digits : (fixedDigits 4 moment.date.year.toNat).all isDigit = true :=
    List.all_eq_true.2 (plain.isDecimal_padded .year).digits
  have january := Date.isProper_monthStart moment.date.year (Nat.le_refl 1) (by decide)
  have first : (⟨moment.date.year, 1, 1⟩ : Date).isValid = true :=
    Date.isValid_iff.2 ⟨january, (Date.isValid_iff.1 plain.isValid_date).2⟩
  have read : readLayout? dashedDate {} (fixedDigits 4 moment.date.year.toNat ++ "-1-1".toList) =
      some { year := moment.date.year, month := 1, day := 1 } := by
    rw [dashedDate]
    exact readLayout?_number (plain.spelledBy_padded .year) (by simp [isDigit])
  rw [written, readInstant?_write_date (by decide), ← written, noDate,
    Option.none_or, readYear?, if_pos ⟨length_fixedDigits 4 _, digits⟩, instantIn?, read]
  exact Reading.instant?_date first

end Dates

section Offsets

variable {moment : Moment} {rest : List Char} {hours minutes : Nat}

theorem takeFixed?_padded (plain : moment.IsPlain) (field : Field) (width : Nat)
    (wide : field.width = width) (stops : ∀ char ∈ rest.head?, isDigit char = false) :
    takeFixed? field width (moment.padded field ++ rest) =
      some ((moment.part field).toNat, rest) := by
  subst wide
  have length := length_fixedDigits field.width (moment.part field).toNat
  have value := Int.toNat_of_nonneg (plain.part_nonneg field)
  have taken := takeNumber?_append (plain.isDecimal_padded field) (Nat.le_of_eq length.symm)
    (Nat.le_of_eq length) stops
  rw [takeFixed?, taken, Option.filter_some_pos]
  simpa only [value] using plain.proper.admits field

/-- The reader of offsets takes the date and the time of the day down to seconds. -/
theorem readOffsetInstant?_padded (plain : moment.IsPlain)
    (stops : ∀ char ∈ rest.head?, isDigit char = false) :
    readOffsetInstant? (moment.date.yearFirst '-' ++ ['T'] ++ moment.fullClock ++ rest) =
      readFractionOffset? ⟨moment.date.year, moment.date.month, moment.date.day, moment.hour,
        moment.minute, moment.second, 0⟩ rest := by
  have text : moment.date.yearFirst '-' ++ ['T'] ++ moment.fullClock ++ rest =
      moment.padded .year ++ '-' :: (moment.padded .month ++ '-' :: (moment.padded .day ++ 'T' ::
        (moment.padded .hour ++ ':' :: (moment.padded .minute ++ ':' ::
          (moment.padded .second ++ rest))))) := by
    simp [Date.yearFirst, Moment.fullClock, Moment.shortClock, Moment.padded, Moment.part,
      Field.width]
  have taken (field : Field) (width : Nat) (wide : field.width = width) {sign : Char}
      (notDigit : isDigit sign = false) (tail : List Char) :
      takeFixed? field width (moment.padded field ++ sign :: tail) =
        some ((moment.part field).toNat, sign :: tail) :=
    takeFixed?_padded plain field width wide (by simpa using notDigit)
  have sign (sign : Char) (tail : List Char) : takeChar? sign (sign :: tail) = some tail :=
    if_pos rfl
  have atMark (reading : Reading) (tail : List Char) :
      readMarkedTime? reading ('T' :: tail) = readOffsetTime? reading tail := rfl
  have year : (moment.date.year.toNat : Int) = moment.date.year :=
    Int.toNat_of_nonneg plain.year_nonneg
  rw [text, readOffsetInstant?_eq, taken .year 4 rfl (by decide), Option.bind_some, sign,
    Option.bind_some, taken .month 2 rfl (by decide), Option.bind_some, sign, Option.bind_some,
    taken .day 2 rfl (by decide), Option.bind_some, atMark, readOffsetTime?,
    taken .hour 2 rfl (by decide), Option.bind_some, sign, Option.bind_some,
    taken .minute 2 rfl (by decide), Option.bind_some, sign, Option.bind_some,
    takeFixed?_padded plain .second 2 rfl stops, Option.bind_some]
  simp only [Moment.part, year, Int.toNat_natCast]

/-- An offset is read behind a time of the day that has seconds. -/
theorem readOffsetInstant?_clock (plain : moment.IsPlain) {precision : Precision}
    (fine : precision ≠ .minute) {sign : Char} (notDigit : isDigit sign = false)
    (notPoint : sign ≠ '.') (tail : List Char) :
    readOffsetInstant?
        (moment.date.yearFirst '-' ++ ['T'] ++ moment.clock precision ++ sign :: tail) =
      readOffset? ((stampPieces (.literal 'T') precision).foldl (Reading.record moment) {})
        (sign :: tail) := by
  have stops : ∀ char ∈ (sign :: tail).head?, isDigit char = false := by simpa using notDigit
  cases precision with
  | minute => exact absurd rfl fine
  | second =>
      have noPoint : (sign :: tail).head? ≠ some '.' := by simpa using notPoint
      rw [Moment.clock, readOffsetInstant?_padded plain stops, readFractionOffset?, if_neg noPoint]
      rfl
  | milli =>
      have text : moment.date.yearFirst '-' ++ ['T'] ++ moment.clock .milli ++ sign :: tail =
          moment.date.yearFirst '-' ++ ['T'] ++ moment.fullClock ++
            '.' :: (fixedDigits 3 moment.milli ++ sign :: tail) := by
        simp [Moment.clock]
      rw [text, readOffsetInstant?_padded plain (by simp [isDigit]), readFractionOffset?,
        if_pos List.head?_cons, List.tail_cons, takeFraction?_append plain.proper.milli_lt stops]
      rfl

theorem readOffset?_eq {reading : Reading} {instant offset : Int} {chars : List Char}
    (told : reading.instant? = some instant) (taken : takeOffset? chars = some (offset, [])) :
    readOffset? reading chars = some (instant - offset * 60000) := by
  rw [readOffset?, taken, Option.bind_some, told]
  rfl

theorem takeOffset?_offsetDigits (hoursLt : hours < 24) (minutesLt : minutes < 60) :
    takeOffset? ('+' :: offsetDigits hours minutes) = some ((hours * 60 + minutes : Int), []) ∧
      takeOffset? ('-' :: offsetDigits hours minutes) =
        some (-(hours * 60 + minutes : Int), []) := by
  have pair (value : Nat) (tail : List Char) (small : value < 100)
      (stops : ∀ char ∈ tail.head?, isDigit char = false) :
      takeNumber? 2 2 (fixedDigits 2 value ++ tail) = some (value, tail) :=
    takeNumber?_append (isDecimal_fixedDigits small) (Nat.le_refl 2) (Nat.le_refl 2) stops
  have first := pair hours (':' :: fixedDigits 2 minutes) (by omega) (by simp [isDigit])
  have second := pair minutes [] (by omega) (by simp)
  rw [List.append_nil] at second
  have colon : takeChar? ':' (':' :: fixedDigits 2 minutes) = some (fixedDigits 2 minutes) := rfl
  have bounds : hours ≤ 23 ∧ minutes ≤ 59 := by omega
  have text : offsetDigits hours minutes = fixedDigits 2 hours ++ ':' :: fixedDigits 2 minutes := by
    simp [offsetDigits]
  constructor <;> simp [takeOffset?, text, first, second, colon, bounds]

/-- An offset is subtracted from what the text shows. -/
theorem readInstant?_offset (plain : moment.IsPlain) {precision : Precision}
    (fine : precision ≠ .minute) {sign : Char} (notDigit : isDigit sign = false)
    (notPoint : sign ≠ '.') {tail : List Char} {offset : Int}
    (taken : takeOffset? (sign :: tail) = some (offset, [])) :
    readInstant? (moment.date.yearFirst '-' ++ ['T'] ++ moment.clock precision ++ sign :: tail) =
      some (moment.floor precision - offset * 60000) := by
  have told := instant?_stamp plain.proper plain.isValid_date (.inl rfl) precision
  rw [readInstant?, readOffsetInstant?_clock plain fine notDigit notPoint,
    readOffset?_eq told taken, Option.some_or]

end Offsets

/-- Every text that can be written for a moment in the years 0 to 9999 is read as the instant that
it stands for. -/
theorem readInstant_of_denotes {moment : Moment} {text : List Char} {instant : Int}
    (proper : moment.IsProper) (first : 0 ≤ moment.date.year) (last : moment.date.year ≤ 9999)
    (denotes : Denotes moment text instant) : readInstant? text = some instant := by
  have plain : moment.IsPlain := ⟨proper, first, last⟩
  cases denotes with
  | marked precision =>
      rw [stamp_eq moment (.literal 'T') rfl]
      exact readInstant?_stamp plain.spelledBy_padded proper plain.isValid_date (.inl rfl) precision
  | spaced precision =>
      rw [stamp_eq moment .blanks rfl]
      exact readInstant?_stamp plain.spelledBy_padded proper plain.isValid_date (.inr rfl) precision
  | universal precision fine =>
      have taken : takeOffset? ['Z'] = some (0, []) := rfl
      rw [readInstant?_offset plain fine (by decide) (by decide) taken, Int.zero_mul, Int.sub_zero]
  | ahead precision fine hours minutes hoursLt minutesLt =>
      have taken := (takeOffset?_offsetDigits hoursLt minutesLt).1
      rw [List.append_assoc, List.singleton_append,
        readInstant?_offset plain fine (by decide) (by decide) taken]
      rfl
  | behind precision fine hours minutes hoursLt minutesLt =>
      have taken := (takeOffset?_offsetDigits hoursLt minutesLt).2
      rw [List.append_assoc, List.singleton_append,
        readInstant?_offset plain fine (by decide) (by decide) taken, offsetMillis]
      congr 1
      omega
  | dashedDate => exact readInstant?_dashed plain
  | monthFirst => exact readInstant?_monthFirst plain
  | slashedDate => exact readInstant?_slashed plain
  | year => exact readInstant?_year plain

/-- The last instant of the 29th of February 2024. -/
def leapNight : Moment :=
  { date := ⟨2024, 2, 29⟩, hour := 23, minute := 59, second := 59, milli := 999 }

/-- What the clock shows five and a half hours behind universal time is that much later. -/
theorem readInstant_of_denotes_leapNight :
    leapNight.IsProper ∧ leapNight.millis = 1709251199999 ∧
      Denotes leapNight "2024-02-29T23:59:59.999-05:30".toList 1709270999999 ∧
      readInstant? "2024-02-29T23:59:59.999-05:30".toList = some 1709270999999 := by
  have proper : leapNight.IsProper :=
    ⟨⟨by decide, by decide, by decide, by decide⟩, by decide, by decide, by decide, by decide⟩
  have denotes : Denotes leapNight "2024-02-29T23:59:59.999-05:30".toList 1709270999999 :=
    .behind .milli (by decide) 5 30 (by decide) (by decide)
  exact ⟨proper, rfl, denotes, readInstant_of_denotes proper (by decide) (by decide) denotes⟩

end TableFlow.Calendar
