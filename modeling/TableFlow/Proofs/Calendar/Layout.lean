import Mathlib.Data.List.TakeWhile
import TableFlow.Calendar.Reader
import TableFlow.Proofs.Calendar.Instant
import TableFlow.Proofs.Number.Digits

/-!
# Layouts written and read

A layout also tells how to write a moment, once it is settled how numbers are spelled.  What is
written by a layout is read by it, and nothing is read by a layout that asks for more of some
character than the text has.  So the characters between the numbers settle which of several layouts
reads a text.

Main statements: `readLayout?_write_append`, `readLayout?_eq_none` and `findSome?_eq_some`.
-/

namespace TableFlow.Calendar

open TableFlow.Number
open TableFlow.Text

section Numbers

variable {least most value : Nat} {row rest : List Char}

theorem takeNumber?_append (decimal : IsDecimal row value) (enough : least ≤ row.length)
    (fits : row.length ≤ most) (stops : ∀ char ∈ rest.head?, isDigit char = false) :
    takeNumber? least most (row ++ rest) = some (value, rest) := by
  have stopsToo : ∀ char ∈ (rest.take (most - row.length)).head?, isDigit char = false := by
    intro char first
    rw [List.head?_take] at first
    split at first
    · contradiction
    · exact stops char first
  have front : ((row ++ rest).take most).takeWhile isDigit = row := by
    rw [List.take_append, List.take_of_length_le fits, takeWhile_append_of_head row stopsToo,
      List.takeWhile_eq_self_iff.2 decimal.digits]
  simp only [takeNumber?, front, decimal.value, List.drop_left, if_neg (Nat.not_lt.2 enough)]

theorem takeAll?_append (decimal : IsDecimal row value) (nonempty : row ≠ [])
    (stops : ∀ char ∈ rest.head?, isDigit char = false) :
    takeAll? (row ++ rest) = some (value, rest) := by
  have fits : row.length ≤ (row ++ rest).length := by
    rw [List.length_append]
    exact Nat.le_add_right _ _
  exact takeNumber?_append decimal (List.length_pos_iff.2 nonempty) fits stops

theorem takeYear?_of_isDigit {first : Char} (digit : isDigit first = true) :
    takeYear? (first :: rest) =
      (takeNumber? 1 4 (first :: rest)).map fun (year, rest) => (Int.ofNat year, rest) := by
  unfold takeYear?
  split
  · rename_i same
    cases same
    exact absurd digit (by decide)
  · rename_i same
    cases same
    exact absurd digit (by decide)
  · rfl

end Numbers

/-- A text that a field is read from: it starts visibly and consists of digits and signs, and the
whole of it is taken where no digit follows. -/
structure Spells (field : Field) (value : Int) (text : List Char) : Prop where
  visible : ∃ first others, text = first :: others ∧ isBlank first = false
  numeric : ∀ char ∈ text, isDigit char = true ∨ char = '-' ∨ char = '+'
  taken : ∀ rest : List Char, (∀ char ∈ rest.head?, isDigit char = false) →
    takeField? field (text ++ rest) = some (value, rest)

/-- The most digits of a number without a sign. -/
def Field.width : Field → Nat
  | .year => 4
  | _ => 2

theorem Field.width_of_ne {field : Field} (other : field ≠ .year) : field.width = 2 := by
  cases field <;> first | rfl | exact absurd rfl other

theorem takeField?_of_ne {field : Field} (other : field ≠ .year) (chars : List Char) :
    takeField? field chars =
      ((takeNumber? 1 2 chars).map fun (value, rest) => (Int.ofNat value, rest)).filter
        fun (value, _) => field.admits value := by
  cases field <;> first | rfl | exact absurd rfl other

/-- Digits spell the number that they are a decimal of. -/
theorem spells_of_isDecimal {field : Field} {row : List Char} {value : Nat}
    (decimal : IsDecimal row value) (nonempty : row ≠ []) (fits : row.length ≤ field.width)
    (admitted : field.admits value = true) : Spells field value row := by
  obtain ⟨first, others, rfl⟩ := List.exists_cons_of_ne_nil nonempty
  have digit := decimal.digits first List.mem_cons_self
  refine ⟨⟨first, others, rfl, not_isBlank_of_isDigit digit⟩, fun char inside =>
    .inl (decimal.digits char inside), ?_⟩
  intro rest stops
  have enough : 1 ≤ (first :: others).length := Nat.le_add_left 1 _
  have taken := takeNumber?_append decimal enough fits stops
  by_cases isYear : field = .year
  · subst isYear
    simp only [Field.width] at taken
    rw [takeField?, List.cons_append, takeYear?_of_isDigit digit, ← List.cons_append, taken,
      Option.map_some, Option.filter_some_pos]
    · rfl
    · exact admitted
  · rw [Field.width_of_ne isYear] at taken
    rw [takeField?_of_ne isYear, taken, Option.map_some, Option.filter_some_pos]
    · rfl
    · exact admitted

/-- A year may have a sign and any number of digits. -/
theorem spells_signed {row : List Char} {value : Nat} (decimal : IsDecimal row value)
    (nonempty : row ≠ []) :
    Spells .year (-(value : Int)) ('-' :: row) ∧ Spells .year value ('+' :: row) := by
  constructor
  all_goals
    refine ⟨⟨_, row, rfl, by decide⟩, ?_, ?_⟩
    · intro char inside
      rcases List.mem_cons.1 inside with sign | later
      · simp [sign]
      · exact .inl (decimal.digits char later)
    · intro rest stops
      simp only [takeField?, List.cons_append, takeYear?, takeAll?_append decimal nonempty stops]
      rfl

/-- The number of a moment that stands in a field. -/
def Moment.part (moment : Moment) : Field → Int
  | .year => moment.date.year
  | .month => moment.date.month
  | .day => moment.date.day
  | .hour => moment.hour
  | .minute => moment.minute
  | .second => moment.second

/-- The numbers of a proper moment may stand in their fields. -/
theorem Moment.IsProper.admits {moment : Moment} (proper : moment.IsProper) (field : Field) :
    field.admits (moment.part field) = true := by
  have monthPos := proper.date.month_pos
  have monthLe := proper.date.month_le
  have dayPos := proper.date.day_pos
  have dayLe := proper.date.day_le_longest
  have hourLt := proper.hour_lt
  have minuteLt := proper.minute_lt
  have secondLt := proper.second_lt
  cases field with
  | year => rfl
  | _ =>
      simp only [Field.admits, Bool.and_eq_true, decide_eq_true_eq]
      simp only [Moment.part]
      omega

/-- Texts for the numbers of a moment. -/
def Moment.SpelledBy (moment : Moment) (numbers : Field → List Char) : Prop :=
  ∀ field, Spells field (moment.part field) (numbers field)

/-- What stands for a piece of a layout: a spelled number, a character, one blank, or a point and
the milliseconds in three digits. -/
def Piece.write (numbers : Field → List Char) (milli : Nat) : Piece → List Char
  | .number field => numbers field
  | .literal char => [char]
  | .blanks => [' ']
  | .fraction => '.' :: fixedDigits 3 milli

/-- A moment by a layout. -/
def writeLayout (numbers : Field → List Char) (milli : Nat) (layout : List Piece) : List Char :=
  layout.flatMap (Piece.write numbers milli)

theorem writeLayout_append (numbers : Field → List Char) (milli : Nat) (front back : List Piece) :
    writeLayout numbers milli (front ++ back) =
      writeLayout numbers milli front ++ writeLayout numbers milli back :=
  List.flatMap_append

theorem writeLayout_singleton (numbers : Field → List Char) (milli : Nat) (piece : Piece) :
    writeLayout numbers milli [piece] = piece.write numbers milli :=
  List.append_nil _

/-- What a piece tells about a moment. -/
def Reading.record (moment : Moment) (reading : Reading) : Piece → Reading
  | .number field => reading.set field (moment.part field)
  | .fraction => { reading with nano := moment.milli * 1000000 }
  | _ => reading

/-- Whether a layout starts with something that does not continue a row of digits. -/
def startsApart : List Piece → Bool
  | .number _ :: _ => false
  | .literal char :: _ => !isDigit char
  | _ => true

/-- Whether a layout starts with a number. -/
def startsNumber : List Piece → Bool
  | .number _ :: _ => true
  | _ => false

/-- Whether it is clear where numbers, fractions and blanks end. -/
def isSeparated : List Piece → Bool
  | [] => true
  | .number _ :: later => startsApart later && isSeparated later
  | .literal _ :: later => isSeparated later
  | .blanks :: later => startsNumber later && isSeparated later
  | .fraction :: later => startsApart later && isSeparated later

section Write

variable {moment : Moment} {numbers : Field → List Char} {milli : Nat}
  {layout later : List Piece} {reading : Reading} {rest : List Char}

theorem stops_write (apart : startsApart layout = true)
    (stops : ∀ char ∈ rest.head?, isDigit char = false) :
    ∀ char ∈ (writeLayout numbers milli layout ++ rest).head?, isDigit char = false := by
  cases layout with
  | nil => exact stops
  | cons piece layout =>
      cases piece with
      | number field => contradiction
      | literal char =>
          rintro first ⟨⟩
          simpa [startsApart] using apart
      | blanks =>
          rintro first ⟨⟩
          decide
      | fraction =>
          rintro first ⟨⟩
          decide

theorem Spells.trimStart_append {field : Field} {value : Int} {text : List Char}
    (spells : Spells field value text) (rest : List Char) :
    trimStart (text ++ rest) = text ++ rest := by
  obtain ⟨first, others, rfl, visible⟩ := spells.visible
  rw [trimStart, List.cons_append, List.dropWhile_cons_of_neg]
  rw [visible]
  exact Bool.false_ne_true

theorem readLayout?_number {field : Field} {value : Int} {text : List Char}
    (spells : Spells field value text) (stops : ∀ char ∈ rest.head?, isDigit char = false) :
    readLayout? (.number field :: later) reading (text ++ rest) =
      readLayout? later (reading.set field value) rest := by
  rw [readLayout?, spells.trimStart_append, spells.taken rest stops]

theorem readLayout?_blanks (spelled : moment.SpelledBy numbers)
    (starts : startsNumber layout = true) :
    readLayout? (.blanks :: later) reading (' ' :: (writeLayout numbers milli layout ++ rest)) =
      readLayout? later reading (writeLayout numbers milli layout ++ rest) := by
  have blank : trimStart (' ' :: (writeLayout numbers milli layout ++ rest)) =
      trimStart (writeLayout numbers milli layout ++ rest) := rfl
  rw [readLayout?, blank]
  cases layout with
  | nil => contradiction
  | cons piece layout =>
      cases piece with
      | number field =>
          have front : writeLayout numbers milli (.number field :: layout) ++ rest =
              numbers field ++ (writeLayout numbers milli layout ++ rest) := List.append_assoc ..
          rw [front, (spelled field).trimStart_append]
      | _ => contradiction

theorem takeFraction?_append (small : milli < 1000)
    (stops : ∀ char ∈ rest.head?, isDigit char = false) :
    takeFraction? (fixedDigits 3 milli ++ rest) = some (milli * 1000000, rest) := by
  have decimal : IsDecimal (fixedDigits 3 milli) milli := isDecimal_fixedDigits small
  have three := length_fixedDigits 3 milli
  have digits : (fixedDigits 3 milli ++ rest).length - rest.length = 3 := by
    rw [List.length_append, three, Nat.add_sub_cancel]
  have behind : rest.dropWhile isDigit = rest := dropWhile_append_of_head [] stops
  rw [takeFraction?, takeNumber?_append decimal (by omega) (by omega) stops]
  simp only [digits, behind]
  rfl

/-- What is written by a layout is read by it, and what follows is left for the pieces that
follow. -/
theorem readLayout?_write_append (spelled : moment.SpelledBy numbers) (small : moment.milli < 1000)
    (separated : isSeparated layout = true) (stops : ∀ char ∈ rest.head?, isDigit char = false) :
    readLayout? (layout ++ later) reading (writeLayout numbers moment.milli layout ++ rest) =
      readLayout? later (layout.foldl (Reading.record moment) reading) rest := by
  induction layout generalizing reading with
  | nil => rfl
  | cons piece layout ih =>
      have front : writeLayout numbers moment.milli (piece :: layout) ++ rest =
          piece.write numbers moment.milli ++ (writeLayout numbers moment.milli layout ++ rest) :=
        List.append_assoc ..
      rw [front, List.cons_append, List.foldl_cons]
      cases piece with
      | number field =>
          obtain ⟨apart, separated⟩ := Bool.and_eq_true_iff.1 separated
          rw [Piece.write, readLayout?_number (spelled field) (stops_write apart stops),
            ih separated]
          rfl
      | literal char =>
          rw [Piece.write, List.singleton_append, readLayout?, if_pos rfl, ih separated]
          rfl
      | blanks =>
          obtain ⟨starts, separated⟩ := Bool.and_eq_true_iff.1 separated
          rw [Piece.write, List.singleton_append, readLayout?_blanks spelled starts, ih separated]
          rfl
      | fraction =>
          obtain ⟨apart, separated⟩ := Bool.and_eq_true_iff.1 separated
          rw [Piece.write, List.cons_append, readLayout?,
            takeFraction?_append small (stops_write apart stops)]
          exact ih separated

/-- A layout reads what is written by it, also if it goes on with what may be missing. -/
theorem instantIn?_write (spelled : moment.SpelledBy numbers) (small : moment.milli < 1000)
    (separated : isSeparated layout = true)
    (optional : ∀ reading, readLayout? later reading [] = some reading) :
    instantIn? (writeLayout numbers moment.milli layout) (layout ++ later) =
      (layout.foldl (Reading.record moment) {}).instant? := by
  have read : readLayout? (layout ++ later) {} (writeLayout numbers moment.milli layout ++ []) =
      readLayout? later (layout.foldl (Reading.record moment) {}) [] :=
    readLayout?_write_append spelled small separated fun _ inside =>
      absurd inside (Option.not_mem_none _)
  rw [List.append_nil, optional] at read
  rw [instantIn?, read]
  rfl

end Write

section Suffix

variable {least most : Nat} {chars rest : List Char}

theorem takeNumber?_suffix {value : Nat}
    (taken : takeNumber? least most chars = some (value, rest)) :
    rest <:+ chars := by
  simp only [takeNumber?] at taken
  split at taken
  · contradiction
  · cases taken
    exact List.drop_suffix _ _

theorem takeYear?_suffix {value : Int} (taken : takeYear? chars = some (value, rest)) :
    rest <:+ chars := by
  unfold takeYear? at taken
  split at taken
  all_goals
    obtain ⟨⟨year, left⟩, found, same⟩ := Option.map_eq_some_iff.1 taken
    cases same
  · exact (takeNumber?_suffix found).trans (List.suffix_cons _ _)
  · exact (takeNumber?_suffix found).trans (List.suffix_cons _ _)
  · exact takeNumber?_suffix found

theorem takeField?_suffix {field : Field} {value : Int}
    (taken : takeField? field chars = some (value, rest)) : rest <:+ chars := by
  by_cases isYear : field = .year
  · subst isYear
    exact takeYear?_suffix (Option.filter_eq_some_iff.1 taken).1
  · rw [takeField?_of_ne isYear] at taken
    obtain ⟨⟨year, left⟩, found, same⟩ :=
      Option.map_eq_some_iff.1 (Option.filter_eq_some_iff.1 taken).1
    cases same
    exact takeNumber?_suffix found

theorem takeFraction?_suffix {nano : Nat} (taken : takeFraction? chars = some (nano, rest)) :
    rest <:+ chars := by
  unfold takeFraction? at taken
  split at taken
  · contradiction
  · rename_i found
    cases taken
    exact (List.dropWhile_suffix _).trans (takeNumber?_suffix found)

end Suffix

/-- A text that is read has every character of the layout. -/
theorem count_literal_le {layout : List Piece} {reading result : Reading} {chars : List Char}
    (read : readLayout? layout reading chars = some result) (char : Char) :
    layout.count (.literal char) ≤ chars.count char := by
  induction layout generalizing reading chars with
  | nil => exact Nat.zero_le _
  | cons piece layout ih =>
      cases piece with
      | number field =>
          rw [readLayout?] at read
          split at read
          · contradiction
          · rename_i taken
            have left := (takeField?_suffix taken).trans (List.dropWhile_suffix _)
            rw [List.count_cons_of_ne (by simp)]
            exact Nat.le_trans (ih read) (left.count_le char)
      | literal sign =>
          cases chars with
          | nil => contradiction
          | cons first rest =>
              rw [readLayout?] at read
              obtain ⟨rfl, readRest⟩ :
                  first = sign ∧ readLayout? layout reading rest = some result := by
                simpa using read
              have later := ih readRest
              by_cases same : first = char
              · subst same
                simpa using later
              · rw [List.count_cons_of_ne (by simpa using same), List.count_cons_of_ne same]
                exact later
      | blanks =>
          rw [List.count_cons_of_ne (by simp)]
          exact Nat.le_trans (ih read) ((List.dropWhile_suffix _).count_le char)
      | fraction =>
          rw [List.count_cons_of_ne (by simp)]
          unfold readLayout? at read
          split at read
          · split at read
            · contradiction
            · rename_i taken
              have left := (takeFraction?_suffix taken).trans (List.suffix_cons '.' _)
              exact Nat.le_trans (ih read) (left.count_le char)
          · exact ih read

/-- Nothing is read by a layout that asks for more of a character. -/
theorem readLayout?_eq_none {layout : List Piece} {reading : Reading} {chars : List Char}
    {char : Char} (fewer : chars.count char < layout.count (.literal char)) :
    readLayout? layout reading chars = none := by
  rw [Option.eq_none_iff_forall_ne_some]
  intro result read
  exact absurd (count_literal_le read char) (Nat.not_le.2 fewer)

theorem instantIn?_of_fewer {layout : List Piece} {chars : List Char} {char : Char}
    (fewer : chars.count char < layout.count (.literal char)) : instantIn? chars layout = none := by
  rw [instantIn?, readLayout?_eq_none fewer]
  rfl

/-! ## The layout that fits -/

section Choice

variable {moment : Moment} {numbers : Field → List Char} {milli : Nat} {char : Char}
  {written layout : List Piece} {layouts : List (List Piece)}

/-- A character that stands in a text only where the layout has it. -/
structure IsSign (numbers : Field → List Char) (char : Char) : Prop where
  absent : ∀ field, char ∉ numbers field
  notDigit : isDigit char = false
  notBlank : char ≠ ' '
  notPoint : char ≠ '.'

/-- Whether a character never stands in a number. -/
def isApart (char : Char) : Bool :=
  !isDigit char && char != '-' && char != '+' && char != ' ' && char != '.'

theorem Moment.SpelledBy.isSign (spelled : moment.SpelledBy numbers) (apart : isApart char = true) :
    IsSign numbers char := by
  simp only [isApart, Bool.and_eq_true, bne_iff_ne, Bool.not_eq_true'] at apart
  obtain ⟨⟨⟨⟨notDigit, notMinus⟩, notPlus⟩, notBlank⟩, notPoint⟩ := apart
  refine ⟨?_, notDigit, notBlank, notPoint⟩
  intro field inside
  rcases (spelled field).numeric char inside with digit | minus | plus
  · exact Bool.false_ne_true (notDigit.symm.trans digit)
  · exact notMinus minus
  · exact notPlus plus

theorem Moment.SpelledBy.areSigns (spelled : moment.SpelledBy numbers) {signs : List Char}
    (apart : signs.all isApart = true) : ∀ char ∈ signs, IsSign numbers char :=
  fun char inside => spelled.isSign (List.all_eq_true.1 apart char inside)

theorem not_mem_fixedDigits {width value : Nat} (notDigit : isDigit char = false) :
    char ∉ fixedDigits width value := by
  induction width generalizing value with
  | zero => exact List.not_mem_nil
  | succ width ih =>
      intro inside
      rcases List.mem_append.1 inside with front | last
      · exact ih front
      · rw [List.mem_singleton.1 last, isDigit_digitChar (Nat.mod_lt _ (by decide))] at notDigit
        contradiction

/-- A text has as many of a sign as the layout by which it is written. -/
theorem IsSign.count_write (sign : IsSign numbers char) (layout : List Piece) :
    (writeLayout numbers milli layout).count char = layout.count (.literal char) := by
  induction layout with
  | nil => rfl
  | cons piece layout ih =>
      have front : writeLayout numbers milli (piece :: layout) =
          piece.write numbers milli ++ writeLayout numbers milli layout := rfl
      rw [front, List.count_append, ih]
      cases piece with
      | number field => simp [Piece.write, List.count_eq_zero.2 (sign.absent field)]
      | literal other => simp [Piece.write, List.count_cons, Nat.add_comm]
      | blanks => simp [Piece.write, sign.notBlank.symm]
      | fraction =>
          simp [Piece.write, sign.notPoint.symm,
            List.count_eq_zero.2 (not_mem_fixedDigits sign.notDigit)]

/-- Whether a text that is written by one layout lacks a sign that another layout asks for. -/
def lacksSign (signs : List Char) (written layout : List Piece) : Bool :=
  signs.any fun char => written.count (.literal char) < layout.count (.literal char)

theorem instantIn?_eq_none {signs : List Char} (areSigns : ∀ char ∈ signs, IsSign numbers char)
    (lacks : lacksSign signs written layout = true) :
    instantIn? (writeLayout numbers milli written) layout = none := by
  obtain ⟨char, inside, fewer⟩ := List.any_eq_true.1 lacks
  apply instantIn?_of_fewer
  rw [(areSigns char inside).count_write]
  exact of_decide_eq_true fewer

/-- Of several layouts, the first one that lacks no sign decides if it reads the text. -/
theorem findSome?_eq_some {signs : List Char} (areSigns : ∀ char ∈ signs, IsSign numbers char)
    {instant : Int}
    (found : layouts.find? (fun other => !lacksSign signs written other) = some layout)
    (read : instantIn? (writeLayout numbers milli written) layout = some instant) :
    layouts.findSome? (instantIn? (writeLayout numbers milli written)) = some instant := by
  induction layouts with
  | nil => contradiction
  | cons first layouts ih =>
      rw [List.find?_cons] at found
      split at found
      · cases found
        rw [List.findSome?_cons, read]
      · rename_i lacks
        rw [List.findSome?_cons, instantIn?_eq_none areSigns (by simpa using lacks)]
        exact ih found

theorem findSome?_eq_none {signs : List Char} (areSigns : ∀ char ∈ signs, IsSign numbers char)
    (lacks : layouts.all (lacksSign signs written) = true) :
    layouts.findSome? (instantIn? (writeLayout numbers milli written)) = none := by
  rw [List.findSome?_eq_none_iff]
  intro layout inside
  exact instantIn?_eq_none areSigns (List.all_eq_true.1 lacks layout inside)

end Choice

end TableFlow.Calendar
