import TableFlow.Json.Writer
import TableFlow.Proofs.Json.Writable
import TableFlow.Proofs.Number.Digits
import TableFlow.Proofs.Number.Finite

/-!
# Numbers read back

A number ends where no character can continue it, so a number that is read on its own is read
the same way in front of a comma or a closing bracket. An integer that fits in 64 bits reads back
from its decimal notation, and every float that a document can hold is finite.
-/

namespace TableFlow.Json

open TableFlow.Number

/-- A text that cannot continue a value: it is empty or starts with a comma or a closing
bracket. -/
def Delimited (rest : List Char) : Prop :=
  ∀ char ∈ rest.head?, char = ',' ∨ char = ']' ∨ char = '\x7d'

theorem Delimited.nil : Delimited [] := by
  intro char inside
  cases inside

theorem Delimited.not_isDigit {rest : List Char} (delimited : Delimited rest) :
    ∀ char ∈ rest.head?, isDigit char = false := by
  intro char first
  rcases delimited char first with rfl | rfl | rfl <;> decide

theorem readDigits?_append {chars digits after rest : List Char}
    (read : readDigits? chars = some (digits, after)) (delimited : Delimited rest) :
    readDigits? (chars ++ rest) = some (digits, after ++ rest) := by
  simp only [readDigits?] at read ⊢
  rw [takeWhile_append_of_head chars delimited.not_isDigit,
    dropWhile_append_of_head chars delimited.not_isDigit]
  split at read
  · contradiction
  · rename_i nonempty
    rw [if_neg nonempty]
    simp only [Option.some.injEq, Prod.mk.injEq] at read ⊢
    exact ⟨read.1, by rw [read.2]⟩

/-- A sign in front of a nonempty text does not look behind it. -/
theorem splitSign_append {chars : List Char} (rest : List Char) (nonempty : chars ≠ []) :
    splitSign (chars ++ rest) = ((splitSign chars).1, (splitSign chars).2 ++ rest) := by
  cases chars with
  | nil => contradiction
  | cons char chars =>
      by_cases minus : char = '-'
      · subst minus
        rfl
      · by_cases plus : char = '+'
        · subst plus
          rfl
        · simp [splitSign, minus, plus]

theorem readExponent?_append {chars after rest : List Char} {power : Option Int}
    (read : readExponent? chars = some (power, after)) (delimited : Delimited rest) :
    readExponent? (chars ++ rest) = some (power, after ++ rest) := by
  cases chars with
  | nil =>
      simp only [readExponent?, Option.some.injEq, Prod.mk.injEq] at read
      obtain ⟨rfl, rfl⟩ := read
      cases rest with
      | nil => rfl
      | cons char rest =>
          have notMark : ¬ (char = 'e' ∨ char = 'E') := by
            rcases delimited char rfl with rfl | rfl | rfl <;> decide
          simp [readExponent?, notMark]
  | cons char chars =>
      simp only [List.cons_append, readExponent?] at read ⊢
      split at read
      · rename_i mark
        rw [if_pos mark]
        obtain ⟨⟨digits, afterDigits⟩, readDigits, same⟩ := Option.map_eq_some_iff.1 read
        have nonempty : chars ≠ [] := by
          rintro rfl
          simp [splitSign, readDigits?] at readDigits
        rw [splitSign_append rest nonempty]
        simp only [Prod.mk.injEq] at same
        obtain ⟨rfl, rfl⟩ := same
        simp only
        rw [readDigits?_append readDigits delimited]
        rfl
      · rename_i noMark
        rw [if_neg noMark]
        simp only [Option.some.injEq, Prod.mk.injEq] at read ⊢
        obtain ⟨rfl, rfl⟩ := read
        exact ⟨rfl, rfl⟩

/-- The ways in which a number without its sign is read: with a fraction, with a power of ten
only, or as a whole number. -/
inductive NumberShape (negative : Bool) (chars : List Char) (document : Json)
    (after : List Char) : Prop where
  | fraction {whole afterPoint fraction afterFraction : List Char} {power : Option Int}
      (front : readDigits? chars = some (whole, '.' :: afterPoint))
      (plain : ¬ (whole.head? = some '0' ∧ whole.length ≠ 1))
      (behind : readDigits? afterPoint = some (fraction, afterFraction))
      (scaled : readExponent? afterFraction = some (power, after))
      (number : fractionalNumber? negative whole fraction (power.getD 0) = some document)
  | power {whole afterWhole : List Char} {power : Int}
      (front : readDigits? chars = some (whole, afterWhole))
      (plain : ¬ (whole.head? = some '0' ∧ whole.length ≠ 1))
      (noPoint : ∀ tail, afterWhole ≠ '.' :: tail)
      (scaled : readExponent? afterWhole = some (some power, after))
      (number : fractionalNumber? negative whole [] power = some document)
  | whole {whole afterWhole : List Char}
      (front : readDigits? chars = some (whole, afterWhole))
      (plain : ¬ (whole.head? = some '0' ∧ whole.length ≠ 1))
      (noPoint : ∀ tail, afterWhole ≠ '.' :: tail)
      (scaled : readExponent? afterWhole = some (none, after))
      (number : wholeNumber? negative whole = some document)

theorem NumberShape.of_readMagnitude? {negative : Bool} {chars after : List Char} {document : Json}
    (read : readMagnitude? negative chars = some (document, after)) :
    NumberShape negative chars document after := by
  unfold readMagnitude? at read
  split at read
  · contradiction
  · rename_i whole afterWhole front
    split at read
    · contradiction
    · rename_i plain
      split at read
      · rename_i afterPoint
        split at read
        · contradiction
        · rename_i fraction afterFraction behind
          split at read
          · contradiction
          · rename_i power rest scaled
            simp only [Option.map_eq_some_iff, Prod.mk.injEq] at read
            obtain ⟨number, found, rfl, rfl⟩ := read
            exact .fraction front plain behind scaled found
      · rename_i noPoint
        split at read
        · contradiction
        · rename_i power rest scaled
          simp only [Option.map_eq_some_iff, Prod.mk.injEq] at read
          obtain ⟨number, found, rfl, rfl⟩ := read
          exact .power front plain noPoint scaled found
        · rename_i rest scaled
          simp only [Option.map_eq_some_iff, Prod.mk.injEq] at read
          obtain ⟨number, found, rfl, rfl⟩ := read
          exact .whole front plain noPoint scaled found

theorem NumberShape.readMagnitude? {negative : Bool} {chars after : List Char} {document : Json}
    (shape : NumberShape negative chars document after) :
    readMagnitude? negative chars = some (document, after) := by
  cases shape with
  | fraction front plain behind scaled number =>
      simp only [Json.readMagnitude?, front, behind, scaled, number, Option.map_some]
      rw [if_neg plain]
  | power front plain noPoint scaled number =>
      simp only [Json.readMagnitude?, front]
      rw [if_neg plain]
      simp only [scaled, number, Option.map_some]
  | whole front plain noPoint scaled number =>
      simp only [Json.readMagnitude?, front]
      rw [if_neg plain]
      simp only [scaled, number, Option.map_some]

/-- A text in front of which a number may end does not bring a point. -/
theorem Delimited.noPoint {chars rest : List Char} (delimited : Delimited rest)
    (noPoint : ∀ tail, chars ≠ '.' :: tail) : ∀ tail, chars ++ rest ≠ '.' :: tail := by
  intro tail same
  cases chars with
  | nil =>
      simp only [List.nil_append] at same
      subst same
      rcases delimited '.' rfl with point | point | point <;> revert point <;> decide
  | cons char chars =>
      simp only [List.cons_append, List.cons.injEq] at same
      exact noPoint chars (by rw [same.1])

theorem readNumber?_of_ne {char : Char} (chars : List Char) (notMinus : char ≠ '-') :
    readNumber? (char :: chars) = readMagnitude? false (char :: chars) := by
  rw [readNumber?]
  intro _ same
  exact notMinus (List.cons.inj same).1

/-- A number reads the same in front of what cannot continue it. -/
theorem readNumber?_append {chars after rest : List Char} {document : Json}
    (read : readNumber? chars = some (document, after)) (delimited : Delimited rest) :
    readNumber? (chars ++ rest) = some (document, after ++ rest) := by
  have extend : ∀ {negative : Bool} {chars : List Char},
      readMagnitude? negative chars = some (document, after) →
        readMagnitude? negative (chars ++ rest) = some (document, after ++ rest) := by
    intro negative chars read
    apply NumberShape.readMagnitude?
    cases NumberShape.of_readMagnitude? read with
    | fraction front plain behind scaled number =>
        exact .fraction (readDigits?_append front delimited) plain
          (readDigits?_append behind delimited) (readExponent?_append scaled delimited) number
    | power front plain noPoint scaled number =>
        exact .power (readDigits?_append front delimited) plain (delimited.noPoint noPoint)
          (readExponent?_append scaled delimited) number
    | whole front plain noPoint scaled number =>
        exact .whole (readDigits?_append front delimited) plain (delimited.noPoint noPoint)
          (readExponent?_append scaled delimited) number
  cases chars with
  | nil => simp [readNumber?, Json.readMagnitude?, readDigits?] at read
  | cons char chars =>
      by_cases minus : char = '-'
      · subst minus
        exact extend read
      · rw [readNumber?_of_ne chars minus] at read
        rw [List.cons_append, readNumber?_of_ne _ minus]
        exact extend read

/-- Only zero starts with the digit zero. -/
theorem head?_toDigits {value : Nat} (zero : (Nat.toDigits 10 value).head? = some '0') :
    value = 0 := by
  have single : ∀ digit < 10, Nat.digitChar digit = '0' → digit = 0 := by decide
  induction value using Nat.strongRecOn with
  | ind value ih =>
      by_cases small : value < 10
      · rw [Nat.toDigits_of_lt_base small] at zero
        exact single value small (Option.some.inj zero)
      · rw [Nat.toDigits_of_base_le (by decide) (by omega), List.head?_append] at zero
        have front : (Nat.toDigits 10 (value / 10)).head? = some '0' := by
          cases shape : Nat.toDigits 10 (value / 10) with
          | nil => exact absurd shape Nat.toDigits_ne_nil
          | cons char chars =>
              rw [shape] at zero
              exact zero
        have := ih (value / 10) (by omega) front
        omega

theorem readDigits?_toDigits (value : Nat) :
    readDigits? (Nat.toDigits 10 value) = some (Nat.toDigits 10 value, []) := by
  have digits := (isDecimal_toDigits value).digits
  have front : (Nat.toDigits 10 value ++ []).takeWhile isDigit = Nat.toDigits 10 value ++ [] :=
    List.takeWhile_append_of_pos digits
  have behind : (Nat.toDigits 10 value ++ []).dropWhile isDigit = [] :=
    List.dropWhile_append_of_pos digits
  rw [List.append_nil] at front behind
  simp only [readDigits?, front, behind]
  rw [if_neg (by simp [Nat.toDigits_ne_nil])]

/-- The decimal notation of a number is read as a whole number. -/
theorem readMagnitude?_toDigits {negative : Bool} {value : Nat} {document : Json}
    (number : wholeNumber? negative (Nat.toDigits 10 value) = some document) :
    readMagnitude? negative (Nat.toDigits 10 value) = some (document, []) := by
  have plain : ¬ ((Nat.toDigits 10 value).head? = some '0' ∧
      (Nat.toDigits 10 value).length ≠ 1) := by
    rintro ⟨zero, long⟩
    rw [head?_toDigits zero] at long
    exact long rfl
  have noPoint : ∀ tail, ([] : List Char) ≠ '.' :: tail := by
    intro tail
    exact List.cons_ne_nil _ _ |>.symm
  exact NumberShape.readMagnitude? (.whole (readDigits?_toDigits value) plain noPoint rfl number)

/-- An integer of 64 bits reads back from its decimal notation. -/
theorem readNumber?_intText {value : Int} (lower : leastWord ≤ value)
    (upper : value ≤ greatestSignificand) :
    readNumber? (intText value).toList = some (.integer value, []) := by
  cases value with
  | ofNat magnitude =>
      have fits : ¬ greatestSignificand < magnitude := by
        simp only [Int.ofNat_eq_natCast] at upper
        omega
      have number : wholeNumber? false (Nat.toDigits 10 magnitude) =
          some (.integer magnitude) := by
        simp [wholeNumber?, digitsValue_toDigits, fits]
      have read := readMagnitude?_toDigits number
      simp only [intText, String.toList_ofList]
      cases shape : Nat.toDigits 10 magnitude with
      | nil => exact absurd shape Nat.toDigits_ne_nil
      | cons char chars =>
          have inside : char ∈ Nat.toDigits 10 magnitude := by
            rw [shape]
            exact List.mem_cons_self
          have digit := Nat.isDigit_of_mem_toDigits (by decide) (by decide) inside
          have notMinus : char ≠ '-' := by
            rintro rfl
            exact absurd digit (by decide)
          rw [readNumber?_of_ne chars notMinus, ← shape, read]
          rfl
  | negSucc magnitude =>
      have fits : ¬ greatestSignificand < magnitude + 1 := by
        simp only [leastWord, greatestSignificand] at lower ⊢
        omega
      have small : ¬ (magnitude + 1 = 0 ∨ -leastWord < ((magnitude + 1 : Nat) : Int)) := by
        omega
      have number : wholeNumber? true (Nat.toDigits 10 (magnitude + 1)) =
          some (.integer (Int.negSucc magnitude)) := by
        simp only [wholeNumber?, digitsValue_toDigits]
        rw [if_neg fits, if_pos trivial, if_neg small]
        rfl
      simp only [intText, String.toList_ofList]
      exact readMagnitude?_toDigits number

theorem takeSignificand_le {significand : Nat} (digits : List Char)
    (fits : significand ≤ greatestSignificand) :
    (takeSignificand significand digits).1 ≤ greatestSignificand := by
  induction digits generalizing significand with
  | nil => exact fits
  | cons digit rest ih =>
      simp only [takeSignificand]
      split
      · rename_i longer
        exact ih longer
      · exact fits

/-- A power of ten that is not stored exactly is of magnitude two or more. -/
theorem atLeast_roundedPowerOfTen {power : Nat} (rounded : 22 < power) :
    AtLeast 1 (powerOfTen power).toModel.unpack := by
  unfold powerOfTen Float.ofScientific
  rw [dif_neg (by omega)]
  exact atLeast_ofScientific (by omega)

/-- A power of ten is of magnitude one or more. -/
theorem atLeast_powerOfTen (power : Nat) : AtLeast 0 (powerOfTen power).toModel.unpack := by
  have exactly : ∀ power < 23, AtLeast 0 (powerOfTen power).toModel.unpack := by decide +kernel
  by_cases small : power < 23
  · exact exactly power small
  · exact (atLeast_roundedPowerOfTen (by omega)).mono (by decide)

/-- Dividing by a power of ten raises the order of magnitude by at most one. -/
theorem magnitude_scaleDown {value : Float} (power : Nat) (magnitude : Magnitude 66 value) :
    Magnitude 67 (scaleDown value power) := by
  fun_induction scaleDown value power with
  | case1 value power small =>
      exact magnitude.div (atLeast_powerOfTen power) (by decide) (by decide)
  | case2 value power large zero => exact magnitude.mono (by decide)
  | case3 value power large nonzero ih =>
      apply ih
      have large : AtLeast 1 (powerOfTen 308).toModel.unpack :=
        atLeast_roundedPowerOfTen (by decide)
      exact magnitude.div large (by decide) (by decide)

/-- What a float of 64 bits is scaled to is finite. -/
theorem isFinite_of_scale? {value result : Float} {power : Int} (magnitude : Magnitude 66 value)
    (scaled : scale? value power = some result) : isFinite result = true := by
  simp only [scale?] at scaled
  split at scaled
  · cases scaled
    exact (magnitude_scaleDown _ magnitude).isFinite
  · split at scaled
    · split at scaled
      · rename_i finite
        cases scaled
        exact finite
      · contradiction
    · split at scaled
      · cases scaled
        exact magnitude.isFinite
      · contradiction

/-- A scaled significand with its sign is a number that can be written. -/
theorem writable_of_scale? {negative : Bool} {significand : Nat} {power : Int} {document : Json}
    (fits : significand ≤ greatestSignificand)
    (scaled : ((scale? (Float.ofNat significand) power).map fun value =>
      Json.float (if negative then -value else value)) = some document) : document.Writable := by
  obtain ⟨value, found, rfl⟩ := Option.map_eq_some_iff.1 scaled
  have below : significand < 2 ^ 64 := by
    simp only [greatestSignificand] at fits
    omega
  have finite := isFinite_of_scale? (magnitude_ofNat below) found
  apply Writable.float
  cases negative with
  | false => exact finite
  | true => exact isFinite_neg finite

theorem writable_of_wholeNumber? {negative : Bool} {digits : List Char} {document : Json}
    (number : wholeNumber? negative digits = some document) : document.Writable := by
  simp only [wholeNumber?] at number
  split at number
  · exact writable_of_scale? (takeSignificand_le digits (Nat.zero_le _)) number
  · rename_i fits
    split at number
    · split at number
      · cases number
        have below : digitsValue digits < 2 ^ 64 := by
          simp only [greatestSignificand] at fits
          omega
        exact .float (isFinite_neg (magnitude_ofNat below).isFinite)
      · cases number
        refine .integer ?_ ?_
        · omega
        · omega
    · cases number
      refine .integer ?_ ?_
      · simp only [leastWord]
        omega
      · omega

theorem writable_of_fractionalNumber? {negative : Bool} {whole fraction : List Char} {power : Int}
    {document : Json} (number : fractionalNumber? negative whole fraction power = some document) :
    document.Writable := by
  simp only [fractionalNumber?] at number
  exact writable_of_scale?
    (takeSignificand_le fraction (takeSignificand_le whole (Nat.zero_le _))) number

/-- A number that is read can be written. -/
theorem writable_of_readNumber? {chars after : List Char} {document : Json}
    (read : readNumber? chars = some (document, after)) : document.Writable := by
  have unsigned : ∀ {negative : Bool} {chars : List Char},
      readMagnitude? negative chars = some (document, after) → document.Writable := by
    intro negative chars read
    cases NumberShape.of_readMagnitude? read with
    | fraction front plain behind scaled number => exact writable_of_fractionalNumber? number
    | power front plain noPoint scaled number => exact writable_of_fractionalNumber? number
    | whole front plain noPoint scaled number => exact writable_of_wholeNumber? number
  unfold readNumber? at read
  split at read
  · exact unsigned read
  · exact unsigned read

/-! ## Characters of numbers -/

/-- The characters of which a written number consists. -/
def isNumeral (char : Char) : Bool :=
  isDigit char || char == '.' || char == '-' || char == '+' || char == 'e'

theorem isNumeral_toDigits {value : Nat} {char : Char} (inside : char ∈ Nat.toDigits 10 value) :
    isNumeral char = true := by
  have digit := Nat.isDigit_of_mem_toDigits (by decide) (by decide) inside
  simp [isNumeral, isDigit_eq, digit]

theorem isNumeral_intText (value : Int) :
    ∀ char ∈ (intText value).toList, isNumeral char = true := by
  intro char inside
  cases value with
  | ofNat magnitude =>
      simp only [intText, String.toList_ofList] at inside
      exact isNumeral_toDigits inside
  | negSucc magnitude =>
      simp only [intText, String.toList_ofList] at inside
      rcases List.mem_cons.1 inside with rfl | digit
      · decide
      · exact isNumeral_toDigits digit

theorem isNumeral_pointed {digits : List Char} (numerals : ∀ char ∈ digits, isNumeral char = true)
    (whole : Int) : ∀ char ∈ (pointed digits whole).toList, isNumeral char = true := by
  intro char inside
  have zero : isNumeral '0' = true := by decide
  have point : isNumeral '.' = true := by decide
  simp only [pointed] at inside
  split at inside
  · simp only [String.toList_ofList, List.cons_append, List.mem_cons, List.mem_append,
      List.mem_replicate] at inside
    rcases inside with rfl | rfl | ⟨_, rfl⟩ | digit
    · exact zero
    · exact point
    · exact zero
    · exact numerals char digit
  · simp only [String.toList_ofList, List.mem_append, List.mem_cons, List.mem_replicate] at inside
    rcases inside with (front | ⟨_, rfl⟩) | rfl | behind
    · exact numerals char (List.mem_of_mem_take front)
    · exact zero
    · exact point
    · split at behind
      · rw [List.mem_singleton] at behind
        rw [behind]
        exact zero
      · exact numerals char (List.mem_of_mem_drop behind)

theorem isNumeral_scientific {digits : List Char}
    (numerals : ∀ char ∈ digits, isNumeral char = true) (power : Int) :
    ∀ char ∈ (documentLayout.scientific digits power).toList, isNumeral char = true := by
  intro char inside
  simp only [Layout.scientific, documentLayout, String.toList_append, List.mem_append] at inside
  rcases inside with ((mantissa | mark) | plus) | exponent
  · split at mantissa
    · rw [List.mem_singleton.1 mantissa]
      decide
    · simp only [String.toList_ofList] at mantissa
      exact numerals char mantissa
    · simp only [String.toList_ofList, List.mem_cons] at mantissa
      rcases mantissa with rfl | rfl | behind
      · exact numerals char List.mem_cons_self
      · decide
      · exact numerals char (List.mem_cons_of_mem _ behind)
  · rw [List.mem_singleton.1 mark]
    decide
  · split at plus
    · rw [List.mem_singleton.1 plus]
      decide
    · cases plus
  · exact isNumeral_intText power char exponent

/-- A written finite float consists of the characters of numbers. -/
theorem isNumeral_writeFloat {value : Float} (finite : isFinite value = true) :
    ∀ char ∈ writeFloat value, isNumeral char = true := by
  intro char inside
  unfold isFinite at finite
  unfold writeFloat at inside
  split at finite
  · rename_i negative mantissa exponent shape
    simp only [shape, Layout.finite] at inside
    have digits : ∀ char ∈ Nat.toDigits 10 (shortest documentLayout.tie mantissa exponent).digits,
        isNumeral char = true := fun _ digit => isNumeral_toDigits digit
    have signed : ∀ text : String, (∀ char ∈ text.toList, isNumeral char = true) →
        char ∈ ((if negative then "-" else "") ++ text).toList → isNumeral char = true := by
      intro text numerals inside
      rw [String.toList_append] at inside
      rcases List.mem_append.1 inside with sign | unsigned
      · cases negative with
        | false => cases sign
        | true =>
            rw [List.mem_singleton.1 sign]
            decide
      · exact numerals char unsigned
    split at inside
    · exact signed _ (List.all_eq_true.1 rfl) inside
    · refine signed _ ?_ inside
      unfold Layout.positive
      simp only
      split
      · exact isNumeral_pointed digits _
      · exact isNumeral_scientific digits _
  · contradiction

theorem suffix_of_readDigits? {chars digits after : List Char}
    (read : readDigits? chars = some (digits, after)) : after <:+ chars := by
  simp only [readDigits?] at read
  split at read
  · contradiction
  · simp only [Option.some.injEq, Prod.mk.injEq] at read
    rw [← read.2]
    exact List.dropWhile_suffix _

theorem suffix_of_splitSign (chars : List Char) : (splitSign chars).2 <:+ chars := by
  unfold splitSign
  split
  · exact List.suffix_cons _ _
  · exact List.suffix_cons _ _
  · exact List.suffix_refl _

theorem suffix_of_readExponent? {chars after : List Char} {power : Option Int}
    (read : readExponent? chars = some (power, after)) : after <:+ chars := by
  cases chars with
  | nil =>
      simp only [readExponent?, Option.some.injEq, Prod.mk.injEq] at read
      obtain ⟨_, rfl⟩ := read
      exact List.suffix_refl _
  | cons char chars =>
      simp only [readExponent?] at read
      split at read
      · obtain ⟨⟨digits, afterDigits⟩, readDigits, same⟩ := Option.map_eq_some_iff.1 read
        simp only [Prod.mk.injEq] at same
        rw [← same.2]
        exact (suffix_of_readDigits? readDigits).trans
          ((suffix_of_splitSign chars).trans (List.suffix_cons _ _))
      · simp only [Option.some.injEq, Prod.mk.injEq] at read
        obtain ⟨_, rfl⟩ := read
        exact List.suffix_refl _

/-- What is left after a number is the end of the text. -/
theorem suffix_of_readNumber? {chars after : List Char} {document : Json}
    (read : readNumber? chars = some (document, after)) : after <:+ chars := by
  have unsigned : ∀ {negative : Bool} {chars : List Char},
      readMagnitude? negative chars = some (document, after) → after <:+ chars := by
    intro negative chars read
    cases NumberShape.of_readMagnitude? read with
    | fraction front plain behind scaled number =>
        exact (suffix_of_readExponent? scaled).trans ((suffix_of_readDigits? behind).trans
          ((List.suffix_cons _ _).trans (suffix_of_readDigits? front)))
    | power front plain noPoint scaled number =>
        exact (suffix_of_readExponent? scaled).trans (suffix_of_readDigits? front)
    | whole front plain noPoint scaled number =>
        exact (suffix_of_readExponent? scaled).trans (suffix_of_readDigits? front)
  unfold readNumber? at read
  split at read
  · exact (unsigned read).trans (List.suffix_cons _ _)
  · exact unsigned read

end TableFlow.Json
