import TableFlow.Proofs.Calendar.Offset

/-!
# Dates with a time of the day

A date and a time of the day, written without an offset from universal time, are read as the instant
of the moment, rounded down to the smallest unit that is written.  This holds however the numbers
are spelled, as long as each of them is read from its spelling.

Main statement: `readInstant?_stamp`.
-/

namespace TableFlow.Calendar

open TableFlow.Number

/-- The smallest unit of a written time of the day. -/
inductive Precision where
  | minute
  | second
  | milli
  deriving DecidableEq

namespace Precision

/-- The milliseconds in a unit. -/
def unit : Precision → Int
  | .minute => 60000
  | .second => 1000
  | .milli => 1

/-- The pieces of a time of the day. -/
def pieces : Precision → List Piece
  | .minute => shortTime
  | .second => fullTime
  | .milli => fullTime ++ [.fraction]

end Precision

/-- The instant of a moment, rounded down to a unit. -/
def Moment.floor (moment : Moment) (precision : Precision) : Int :=
  moment.millis / precision.unit * precision.unit

/-- The piece between a date and a time of the day. -/
def IsMark (mark : Piece) : Prop :=
  mark = .literal 'T' ∨ mark = .blanks

/-- A date and a time of the day with a mark between them. -/
def stampPieces (mark : Piece) (precision : Precision) : List Piece :=
  dashedDate ++ [mark] ++ precision.pieces

section Readings

variable {moment : Moment} {reading : Reading} {mark : Piece}

theorem Reading.instant?_eq {date : Date} (valid : date.isValid = true)
    (same : (⟨reading.year, reading.month, reading.day⟩ : Date) = date) :
    reading.instant? = some (date.midnight +
      (((reading.hour * 60 + reading.minute) * 60 + reading.second) * 1000 +
        reading.nano / 1000000 : Nat)) := by
  subst same
  rw [Reading.instant?, Reading.date?, if_pos valid, Option.map_some]

theorem Reading.instant?_date {date : Date} (valid : date.isValid = true) :
    Reading.instant? { year := date.year, month := date.month, day := date.day } =
      some date.midnight := by
  rw [Reading.instant?_eq valid rfl]
  simp

theorem IsMark.record_eq (isMark : IsMark mark) : reading.record moment mark = reading := by
  rcases isMark with rfl | rfl <;> rfl

/-- A date and a time of the day tell the instant down to the smallest unit. -/
theorem instant?_stamp (proper : moment.IsProper) (valid : moment.date.isValid = true)
    (isMark : IsMark mark) (precision : Precision) :
    ((stampPieces mark precision).foldl (Reading.record moment) {}).instant? =
      some (moment.floor precision) := by
  have minuteLt := proper.minute_lt
  have secondLt := proper.second_lt
  have milliLt := proper.milli_lt
  have read (second nano : Nat) :
      Reading.instant? ⟨moment.date.year, moment.date.month, moment.date.day, moment.hour,
        moment.minute, second, nano⟩ = some (moment.date.midnight +
          (((moment.hour * 60 + moment.minute) * 60 + second) * 1000 + nano / 1000000 : Nat)) :=
    Reading.instant?_eq valid rfl
  rw [stampPieces, List.foldl_append, List.foldl_append, List.foldl_cons, isMark.record_eq,
    List.foldl_nil]
  simp only [Moment.floor, Moment.millis, Moment.millisOfDay]
  cases precision with
  | minute =>
      refine (read 0 0).trans (congrArg some ?_)
      simp only [Precision.unit, Date.midnight, dayMillis]
      omega
  | second =>
      refine (read moment.second 0).trans (congrArg some ?_)
      simp only [Precision.unit, Date.midnight, dayMillis]
      omega
  | milli =>
      refine (read moment.second (moment.milli * 1000000)).trans (congrArg some ?_)
      simp only [Precision.unit, Date.midnight, dayMillis]
      omega

end Readings

section Spelled

variable {moment : Moment} {numbers : Field → List Char} {milli : Nat} {layout : List Piece}

/-- No offset is read where the layout has none. -/
theorem readOffsetInstant?_write (spelled : moment.SpelledBy numbers)
    (noLetter : layout.count (.literal 'Z') = 0 ∧ layout.count (.literal 'z') = 0)
    (fewColons : layout.count (.literal ':') < 3) :
    readOffsetInstant? (writeLayout numbers milli layout) = none := by
  have upper : IsSign numbers 'Z' := spelled.isSign (by decide)
  have lower : IsSign numbers 'z' := spelled.isSign (by decide)
  have colon : IsSign numbers ':' := spelled.isSign (by decide)
  apply readOffsetInstant?_eq_none
  rintro (letter | letter | enough)
  · rw [← List.count_pos_iff, upper.count_write, noLetter.1] at letter
    contradiction
  · rw [← List.count_pos_iff, lower.count_write, noLetter.2] at letter
    contradiction
  · rw [colon.count_write] at enough
    omega

/-- What a layout may have behind a time of the day: a fraction behind the seconds. -/
def Precision.optional : Precision → List Piece
  | .second => [.fraction]
  | _ => []

theorem readLayout?_optional (precision : Precision) (reading : Reading) :
    readLayout? precision.optional reading [] = some reading := by
  cases precision <;> rfl

/-- The first layout with the signs of a stamp is its own, up to a fraction that may be missing. -/
theorem find?_stamp {mark : Piece} (isMark : IsMark mark) (precision : Precision) :
    timeLayouts.find? (fun other => !lacksSign ['T', ':'] (stampPieces mark precision) other) =
      some (stampPieces mark precision ++ precision.optional) := by
  rcases isMark with rfl | rfl <;> cases precision <;> decide

theorem isSeparated_stamp {mark : Piece} (isMark : IsMark mark) (precision : Precision) :
    isSeparated (stampPieces mark precision) = true := by
  rcases isMark with rfl | rfl <;> cases precision <;> decide

/-- A written date with a time of the day is read down to the smallest unit. -/
theorem readInstant?_stamp (spelled : moment.SpelledBy numbers) (proper : moment.IsProper)
    (valid : moment.date.isValid = true) {mark : Piece} (isMark : IsMark mark)
    (precision : Precision) :
    readInstant? (writeLayout numbers moment.milli (stampPieces mark precision)) =
      some (moment.floor precision) := by
  have noOffset :
      readOffsetInstant? (writeLayout numbers moment.milli (stampPieces mark precision)) =
      none := by
    apply readOffsetInstant?_write spelled
    · rcases isMark with rfl | rfl <;> cases precision <;> decide
    · rcases isMark with rfl | rfl <;> cases precision <;> decide
  have read := instantIn?_write spelled proper.milli_lt (isSeparated_stamp isMark precision)
    (readLayout?_optional precision)
  rw [instant?_stamp proper valid isMark precision] at read
  rw [readInstant?, noOffset, Option.none_or,
    findSome?_eq_some (spelled.areSigns (by decide)) (find?_stamp isMark precision) read]
  rfl

end Spelled

end TableFlow.Calendar
