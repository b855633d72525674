import TableFlow.Proofs.Calendar.Week
import TableFlow.Proofs.Number.Word
import TableFlow.Proofs.Transform.Period
import TableFlow.Transform.Dates

/-!
# Parts of dates

The parts of a date fit together.  The first day of a period and the days since then lead back to
the day, and the day and the parts of the time lead back to the instant.  A first day is missing
exactly if the calendar starts later.  Numbers of weeks tell weeks apart, and the weeks of a year
are numbered one by one.

Main statements: `exists_coherent_parts` and `exists_parts_tellsWeek`.
-/

namespace TableFlow

open TableFlow.Number
open TableFlow.Calendar

/-- The words that stand in the cells of the parts of a date.  Only three first days can be
missing. -/
structure DateParts where
  year : Int64
  month : Int64
  day : Int64
  hour : Int64
  minutes : Int64
  seconds : Int64
  milliseconds : Int64
  quarter : Int64
  week : Int64
  dayOfWeek : Int64
  dayOfYear : Int64
  isoYear : Int64
  isoWeek : Int64
  isoDayOfWeek : Int64
  firstDayOfYear : Int64
  firstDayOfMonth : Int64
  firstDayOfQuarter : Int64
  firstDayOfWeek : Option Int64
  firstDayOfIsoWeek : Option Int64
  previousDay : Option Int64

namespace DateParts

def cell (parts : DateParts) : DatePart → Cell
  | .year => .integer parts.year
  | .month => .integer parts.month
  | .day => .integer parts.day
  | .hour => .integer parts.hour
  | .minutes => .integer parts.minutes
  | .seconds => .integer parts.seconds
  | .milliseconds => .integer parts.milliseconds
  | .quarter => .integer parts.quarter
  | .week => .integer parts.week
  | .dayOfWeek => .integer parts.dayOfWeek
  | .dayOfYear => .integer parts.dayOfYear
  | .isoYear => .integer parts.isoYear
  | .isoWeek => .integer parts.isoWeek
  | .isoDayOfWeek => .integer parts.isoDayOfWeek
  | .firstDayOfYear => .timestamp parts.firstDayOfYear
  | .firstDayOfMonth => .timestamp parts.firstDayOfMonth
  | .firstDayOfQuarter => .timestamp parts.firstDayOfQuarter
  | .firstDayOfWeek => parts.firstDayOfWeek.elim .null .timestamp
  | .firstDayOfIsoWeek => parts.firstDayOfIsoWeek.elim .null .timestamp
  | .previousDay => parts.previousDay.elim .null .timestamp

/-- The parts of a moment are these. -/
def IsExtracted (parts : DateParts) (moment : Moment) : Prop :=
  ∀ part : DatePart, part.extract moment = parts.cell part

/-- The parts of the date of an instant are these. -/
def IsOf (parts : DateParts) (millis : Int) : Prop :=
  ∃ moment, Moment.ofMillis? millis = some moment ∧ parts.IsExtracted moment

/-- What the parts of a moment stand for. -/
structure Shows (parts : DateParts) (moment : Moment) : Prop where
  year : parts.year.toInt = moment.date.year
  month : parts.month.toInt = moment.date.month
  day : parts.day.toInt = moment.date.day
  hour : parts.hour.toInt = moment.hour
  minutes : parts.minutes.toInt = moment.minute
  seconds : parts.seconds.toInt = moment.second
  milliseconds : parts.milliseconds.toInt = moment.milli
  quarter : parts.quarter.toInt = quarterOf moment.date.month
  week : parts.week.toInt = plainWeek moment.date (daysFromSunday moment.date.dayNumber)
  dayOfWeek : parts.dayOfWeek.toInt = daysFromSunday moment.date.dayNumber + 1
  dayOfYear : parts.dayOfYear.toInt = moment.date.dayOfYear
  isoYear : parts.isoYear.toInt = (Calendar.isoWeek moment.date.dayNumber).year
  isoWeek : parts.isoWeek.toInt = (Calendar.isoWeek moment.date.dayNumber).week
  isoDayOfWeek : parts.isoDayOfWeek.toInt = daysFromMonday moment.date.dayNumber + 1
  firstDayOfYear : parts.firstDayOfYear.toInt = Date.midnight ⟨moment.date.year, 1, 1⟩
  firstDayOfMonth :
    parts.firstDayOfMonth.toInt = Date.midnight ⟨moment.date.year, moment.date.month, 1⟩
  firstDayOfQuarter :
    parts.firstDayOfQuarter.toInt =
      Date.midnight ⟨moment.date.year, (moment.date.month - 1) / 3 * 3 + 1, 1⟩
  firstDayOfWeek :
    parts.firstDayOfWeek.map Int64.toInt = sinceStart? (sunday moment.date.dayNumber * dayMillis)
  firstDayOfIsoWeek :
    parts.firstDayOfIsoWeek.map Int64.toInt = sinceStart? (monday moment.date.dayNumber * dayMillis)
  previousDay :
    parts.previousDay.map Int64.toInt = sinceStart? ((moment.date.dayNumber - 1) * dayMillis)

end DateParts

section Words

variable {date : Date}

theorem toInt_ofInt_instant {instant : Int} (least : leastInstant ≤ instant)
    (greatest : instant ≤ greatestInstant) : (Int64.ofInt instant).toInt = instant :=
  toInt_of_word? (word?_instant least greatest)

/-- Numbers of years are words. -/
theorem toInt_ofInt_year {year : Int} (least : leastYear - 1 ≤ year)
    (greatest : year ≤ greatestYear + 1) :
    (Int64.ofInt year).toInt = year :=
  toInt_ofInt_instant (Int.le_trans (by decide) least) (Int.le_trans greatest (by decide))

theorem toInt_ofInt_small {value : Nat} (small : value ≤ 1000) :
    (Int64.ofInt value).toInt = value :=
  toInt_ofInt_instant (Int.le_trans (by decide) (Int.natCast_nonneg value))
    (Int.le_trans (Int.ofNat_le.2 small) (by decide))

/-- The midnights of the dates of the calendar lie in the calendar. -/
theorem midnight_bounds (valid : date.isValid = true) :
    leastInstant ≤ date.midnight ∧ date.midnight ≤ greatestInstant := by
  obtain ⟨proper, least, greatest⟩ := Date.isValid_iff.1 valid
  have notBefore := (Date.le_year_iff_le_dayNumber proper leastYear).1 least
  have notAfter := (Date.le_year_iff_le_dayNumber proper (greatestYear + 1)).not.1 (by omega)
  have start : Date.dayNumber ⟨leastYear, 1, 1⟩ * dayMillis = leastInstant := rfl
  have after : Date.dayNumber ⟨greatestYear + 1, 1, 1⟩ * dayMillis = greatestInstant + 1 := rfl
  simp only [Date.midnight, dayMillis] at start after ⊢
  omega

theorem toInt_ofInt_midnight (valid : date.isValid = true) :
    (Int64.ofInt date.midnight).toInt = date.midnight :=
  toInt_ofInt_instant (midnight_bounds valid).1 (midnight_bounds valid).2

theorem map_toInt_ofInt_sinceStart? {instant : Int} (greatest : instant ≤ greatestInstant) :
    ((sinceStart? instant).map Int64.ofInt).map Int64.toInt = sinceStart? instant := by
  rw [sinceStart?]
  split
  · rename_i least
    rw [Option.map_some, Option.map_some, toInt_ofInt_instant least greatest]
  · rfl

theorem midnightCell_eq (number : Int) :
    midnightCell number =
      ((sinceStart? (number * dayMillis)).map Int64.ofInt).elim .null .timestamp := by
  have start : Date.midnight ⟨leastYear, 1, 1⟩ = leastInstant := rfl
  rw [midnightCell, sinceStart?, start]
  split <;> rfl

theorem midnightCell_midnight (valid : date.isValid = true) :
    midnightCell date.dayNumber = .timestamp (Int64.ofInt date.midnight) :=
  if_pos (midnight_bounds valid).1

/-- Every month of the calendar has a first day. -/
theorem isValid_monthStart {month : Nat} (valid : date.isValid = true) (first : 1 ≤ month)
    (last : month ≤ 12) : Date.isValid ⟨date.year, month, 1⟩ = true := by
  obtain ⟨-, least, greatest⟩ := Date.isValid_iff.1 valid
  exact Date.isValid_iff.2 ⟨Date.isProper_monthStart date.year first last, least, greatest⟩

end Words

def partsOf (moment : Moment) : DateParts :=
  let date := moment.date
  let number := date.dayNumber
  { year := Int64.ofInt date.year
    month := Int64.ofInt date.month
    day := Int64.ofInt date.day
    hour := Int64.ofInt moment.hour
    minutes := Int64.ofInt moment.minute
    seconds := Int64.ofInt moment.second
    milliseconds := Int64.ofInt moment.milli
    quarter := Int64.ofInt (quarterOf date.month)
    week := Int64.ofInt (plainWeek date (daysFromSunday number))
    dayOfWeek := Int64.ofInt (daysFromSunday number + 1 : Nat)
    dayOfYear := Int64.ofInt date.dayOfYear
    isoYear := Int64.ofInt (isoWeek number).year
    isoWeek := Int64.ofInt (isoWeek number).week
    isoDayOfWeek := Int64.ofInt (daysFromMonday number + 1 : Nat)
    firstDayOfYear := Int64.ofInt (Date.midnight ⟨date.year, 1, 1⟩)
    firstDayOfMonth := Int64.ofInt (Date.midnight ⟨date.year, date.month, 1⟩)
    firstDayOfQuarter := Int64.ofInt (Date.midnight ⟨date.year, (date.month - 1) / 3 * 3 + 1, 1⟩)
    firstDayOfWeek := (sinceStart? (sunday number * dayMillis)).map Int64.ofInt
    firstDayOfIsoWeek := (sinceStart? (monday number * dayMillis)).map Int64.ofInt
    previousDay := (sinceStart? ((number - 1) * dayMillis)).map Int64.ofInt }

section Moments

variable {moment : Moment}

theorem isExtracted_partsOf (valid : moment.date.isValid = true) :
    (partsOf moment).IsExtracted moment := by
  obtain ⟨⟨monthPos, monthLe, -, -⟩, -, -⟩ := Date.isValid_iff.1 valid
  intro part
  cases part with
  | firstDayOfYear => exact midnightCell_midnight (isValid_monthStart valid (by decide) (by decide))
  | firstDayOfMonth => exact midnightCell_midnight (isValid_monthStart valid monthPos monthLe)
  | firstDayOfQuarter =>
      exact midnightCell_midnight (isValid_monthStart valid (by omega) (by omega))
  | firstDayOfWeek => exact midnightCell_eq _
  | firstDayOfIsoWeek => exact midnightCell_eq _
  | previousDay => exact midnightCell_eq _
  | _ => rfl

/-- The first day of a period that holds a valid date is not after the calendar. -/
theorem earlier_le_greatestInstant {date : Date} {number : Int} (valid : date.isValid = true)
    (earlier : number ≤ date.dayNumber) : number * dayMillis ≤ greatestInstant := by
  have inCalendar := (midnight_bounds valid).2
  simp only [Date.midnight, dayMillis] at inCalendar ⊢
  omega

theorem shows_partsOf (proper : moment.IsProper) (valid : moment.date.isValid = true) :
    (partsOf moment).Shows moment := by
  obtain ⟨dateProper, hourLt, minuteLt, secondLt, milliLt⟩ := proper
  obtain ⟨-, least, greatest⟩ := Date.isValid_iff.1 valid
  have monthPos := dateProper.month_pos
  have monthLe := dateProper.month_le
  have dayLe := dateProper.day_le_longest
  have weekLe := plainWeek_le dateProper (daysFromSunday moment.date.dayNumber)
  have isoWeekLe := (isoWeek_week_bounds moment.date.dayNumber).2
  have isoYear := isoWeek_year_bounds dateProper
  have dayOfYearLe := (Date.dayOfYear_bounds dateProper).2
  have sinceSunday := daysFromSunday_lt moment.date.dayNumber
  have sinceMonday := daysFromMonday_lt moment.date.dayNumber
  exact
    { year := toInt_ofInt_year (by omega) (by omega)
      month := toInt_ofInt_small (by omega)
      day := toInt_ofInt_small (by omega)
      hour := toInt_ofInt_small (by omega)
      minutes := toInt_ofInt_small (by omega)
      seconds := toInt_ofInt_small (by omega)
      milliseconds := toInt_ofInt_small (by omega)
      quarter := toInt_ofInt_small (by rw [quarterOf]; omega)
      week := toInt_ofInt_small (by omega)
      dayOfWeek := toInt_ofInt_small (by omega)
      dayOfYear := toInt_ofInt_small (by omega)
      isoYear := toInt_ofInt_year (by omega) (by omega)
      isoWeek := toInt_ofInt_small (by omega)
      isoDayOfWeek := toInt_ofInt_small (by omega)
      firstDayOfYear := toInt_ofInt_midnight (isValid_monthStart valid (by decide) (by decide))
      firstDayOfMonth := toInt_ofInt_midnight (isValid_monthStart valid monthPos monthLe)
      firstDayOfQuarter := toInt_ofInt_midnight (isValid_monthStart valid (by omega) (by omega))
      firstDayOfWeek :=
        map_toInt_ofInt_sinceStart? (earlier_le_greatestInstant valid (by rw [sunday]; omega))
      firstDayOfIsoWeek :=
        map_toInt_ofInt_sinceStart? (earlier_le_greatestInstant valid (by rw [monday]; omega))
      previousDay := map_toInt_ofInt_sinceStart? (earlier_le_greatestInstant valid (by omega)) }

end Moments

/-! ## Coherence -/

/-- The parts of the date of an instant fit together. -/
structure DateParts.Coherent (parts : DateParts) (millis : Int) : Prop where
  /-- The day of the year and the time of the day make up the instant. -/
  instant :
    parts.firstDayOfYear.toInt + (parts.dayOfYear.toInt - 1) * dayMillis +
      (((parts.hour.toInt * 60 + parts.minutes.toInt) * 60 + parts.seconds.toInt) * 1000 +
        parts.milliseconds.toInt) = millis
  /-- The day of the month makes up the midnight of the date. -/
  midnight :
    parts.firstDayOfMonth.toInt + (parts.day.toInt - 1) * dayMillis = millis / dayMillis * dayMillis
  date : Date.midnight ⟨parts.year.toInt, parts.month.toInt.toNat, parts.day.toInt.toNat⟩ =
    millis / dayMillis * dayMillis
  firstDayOfQuarter : parts.firstDayOfQuarter.toInt =
    Date.midnight ⟨parts.year.toInt, (3 * (parts.quarter.toInt - 1) + 1).toNat, 1⟩
  month : 3 * (parts.quarter.toInt - 1) + 1 ≤ parts.month.toInt ∧
    parts.month.toInt ≤ 3 * parts.quarter.toInt
  firstDayOfWeek : parts.firstDayOfWeek.map Int64.toInt =
    sinceStart? (millis / dayMillis * dayMillis - (parts.dayOfWeek.toInt - 1) * dayMillis)
  firstDayOfIsoWeek : parts.firstDayOfIsoWeek.map Int64.toInt =
    sinceStart? (millis / dayMillis * dayMillis - (parts.isoDayOfWeek.toInt - 1) * dayMillis)
  previousDay : parts.previousDay.map Int64.toInt =
    sinceStart? (millis / dayMillis * dayMillis - dayMillis)
  dayOfWeek : parts.dayOfWeek.toInt = parts.isoDayOfWeek.toInt % 7 + 1
  /-- The first of January 1970 is a Thursday. -/
  isoDayOfWeek : 1 ≤ parts.isoDayOfWeek.toInt ∧ parts.isoDayOfWeek.toInt ≤ 7 ∧
    (millis / dayMillis - (parts.isoDayOfWeek.toInt - 4)) % 7 = 0
  time : 0 ≤ parts.hour.toInt ∧ parts.hour.toInt < 24 ∧ 0 ≤ parts.minutes.toInt ∧
    parts.minutes.toInt < 60 ∧ 0 ≤ parts.seconds.toInt ∧ parts.seconds.toInt < 60 ∧
    0 ≤ parts.milliseconds.toInt ∧ parts.milliseconds.toInt < 1000

section Coherence

variable {moment : Moment} {millis : Int}

/-- A day is so many days after the first day of its month. -/
theorem midnight_monthStart (date : Date) :
    Date.midnight ⟨date.year, date.month, 1⟩ + ((date.day : Int) - 1) * dayMillis =
      date.dayNumber * dayMillis := by
  simp only [Date.midnight, Date.dayNumber, Date.dayOfYear, dayMillis]
  omega

/-- A day is so many days after the first day of its year. -/
theorem midnight_yearStart (date : Date) :
    Date.midnight ⟨date.year, 1, 1⟩ + ((date.dayOfYear : Int) - 1) * dayMillis =
      date.dayNumber * dayMillis := by
  have start : Date.dayOfYear ⟨date.year, 1, 1⟩ = 1 := rfl
  simp only [Date.midnight, Date.dayNumber, start, dayMillis]
  omega

theorem DateParts.Shows.coherent {parts : DateParts} (shows : parts.Shows moment)
    (proper : moment.IsProper) : parts.Coherent moment.millis where
  instant := by
    rw [shows.firstDayOfYear, shows.dayOfYear, midnight_yearStart, shows.hour, shows.minutes,
      shows.seconds, shows.milliseconds, Moment.millis, Moment.millisOfDay]
    omega
  midnight := by
    rw [shows.firstDayOfMonth, shows.day, midnight_monthStart, Moment.millis_div_dayMillis proper]
  date := by
    rw [shows.year, shows.month, shows.day, Moment.millis_div_dayMillis proper, Int.toNat_natCast,
      Int.toNat_natCast, Date.midnight]
  firstDayOfQuarter := by
    have month : (3 * ((quarterOf moment.date.month : Int) - 1) + 1).toNat =
        (moment.date.month - 1) / 3 * 3 + 1 := by
      rw [quarterOf]
      omega
    rw [shows.firstDayOfQuarter, shows.year, shows.quarter, month]
  month := by
    have monthPos := proper.date.month_pos
    rw [shows.quarter, shows.month, quarterOf]
    omega
  firstDayOfWeek := by
    rw [shows.firstDayOfWeek, shows.dayOfWeek, Moment.millis_div_dayMillis proper,
      Int.add_sub_cancel, ← Int.sub_mul, sunday]
  firstDayOfIsoWeek := by
    rw [shows.firstDayOfIsoWeek, shows.isoDayOfWeek, Moment.millis_div_dayMillis proper,
      Int.add_sub_cancel, ← Int.sub_mul, monday]
  previousDay := by
    rw [shows.previousDay, Moment.millis_div_dayMillis proper, Int.sub_mul, Int.one_mul]
  dayOfWeek := by
    rw [shows.dayOfWeek, shows.isoDayOfWeek, daysFromSunday_eq]
    omega
  isoDayOfWeek := by
    have sinceMonday := daysFromMonday_lt moment.date.dayNumber
    have isMonday := monday_mod moment.date.dayNumber
    rw [monday] at isMonday
    rw [shows.isoDayOfWeek, Moment.millis_div_dayMillis proper]
    omega
  time := by
    obtain ⟨-, hourLt, minuteLt, secondLt, milliLt⟩ := proper
    rw [shows.hour, shows.minutes, shows.seconds, shows.milliseconds]
    omega

/-- An instant of the calendar is that of a moment, and its date has parts. -/
theorem exists_shown (representable : isRepresentable millis = true) :
    ∃ (moment : Moment) (parts : DateParts), moment.IsProper ∧ moment.date.isValid = true ∧
      moment.millis = millis ∧ parts.IsOf millis ∧ parts.Shows moment := by
  have proper := Moment.isProper_ofMillis millis
  have valid := isValid_ofMillis representable
  have isOf : (partsOf (Moment.ofMillis millis)).IsOf millis :=
    ⟨Moment.ofMillis millis, if_pos representable, isExtracted_partsOf valid⟩
  exact ⟨Moment.ofMillis millis, partsOf (Moment.ofMillis millis), proper, valid,
    Moment.millis_ofMillis millis, isOf, shows_partsOf proper valid⟩

/-- The parts of every date of the calendar fit together. -/
theorem exists_coherent_parts (representable : isRepresentable millis = true) :
    ∃ parts : DateParts, parts.IsOf millis ∧ parts.Coherent millis := by
  obtain ⟨moment, parts, proper, -, rfl, isOf, shows⟩ := exists_shown representable
  exact ⟨parts, isOf, shows.coherent proper⟩

/-- The calendar starts with a date that has no day before. -/
theorem exists_coherent_parts_start :
    isRepresentable leastInstant = true ∧
      ∃ parts : DateParts, parts.IsOf leastInstant ∧ parts.Coherent leastInstant ∧
        parts.previousDay = none := by
  have representable : isRepresentable leastInstant = true := by decide
  obtain ⟨parts, isOf, coherent⟩ := exists_coherent_parts representable
  have before : sinceStart? (leastInstant / dayMillis * dayMillis - dayMillis) = none := by decide
  have missing := coherent.previousDay.trans before
  exact ⟨representable, parts, isOf, coherent, Option.map_eq_none_iff.1 missing⟩

end Coherence

/-! ## Weeks -/

namespace DateParts

/-- The numbers of the weeks of two dates tell whether the weeks are the same. -/
structure TellsWeek (parts others : DateParts) : Prop where
  isoWeek_range : 1 ≤ parts.isoWeek.toInt ∧ parts.isoWeek.toInt ≤ 53
  week_range : 0 ≤ parts.week.toInt ∧ parts.week.toInt ≤ 53
  isoWeek_iff : parts.isoYear = others.isoYear ∧ parts.isoWeek = others.isoWeek ↔
    parts.firstDayOfIsoWeek = others.firstDayOfIsoWeek
  week_iff : parts.year = others.year ∧ parts.week = others.week ↔
    parts.year = others.year ∧ parts.firstDayOfWeek = others.firstDayOfWeek

/-- The ISO week of a date is the next one of the year, or the first one of the next year. -/
def IsWeekAfter (later parts : DateParts) : Prop :=
  (later.isoYear.toInt = parts.isoYear.toInt ∧ later.isoWeek.toInt = parts.isoWeek.toInt + 1) ∨
    (later.isoYear.toInt = parts.isoYear.toInt + 1 ∧ later.isoWeek.toInt = 1)

end DateParts

section Weeks

variable {moment other : Moment} {parts others : DateParts} {millis : Int}

/-- Weeks that hold a day of the calendar have different first days, where at most one is
missing. -/
theorem sinceStart?_week_inj {first second : Int} (apart : (first - second) % 7 = 0)
    (reaches : leastInstant < (first + 7) * dayMillis)
    (otherReaches : leastInstant < (second + 7) * dayMillis) :
    sinceStart? (first * dayMillis) = sinceStart? (second * dayMillis) ↔ first = second := by
  have start : Date.midnight ⟨leastYear, 1, 1⟩ = leastInstant := rfl
  constructor
  · intro same
    simp only [sinceStart?, start, leastInstant, dayMillis] at same reaches otherReaches
    split at same <;> split at same
    · have millisEq := Option.some.inj same
      omega
    · contradiction
    · contradiction
    · omega
  · intro same
    rw [same]

theorem leastInstant_lt_of_isValid {date : Date} {since : Nat} (valid : date.isValid = true)
    (inWeek : since < 7) : leastInstant < (date.dayNumber - since + 7) * dayMillis := by
  have inCalendar := (midnight_bounds valid).1
  simp only [Date.midnight, dayMillis] at inCalendar ⊢
  omega

theorem map_toInt_inj {first second : Option Int64} :
    first.map Int64.toInt = second.map Int64.toInt ↔ first = second :=
  (Option.map_injective fun _ _ => Int64.toInt_inj.1).eq_iff

namespace DateParts.Shows

theorem isoWeek_eq_iff (shows : parts.Shows moment) (otherShows : others.Shows other) :
    parts.isoYear = others.isoYear ∧ parts.isoWeek = others.isoWeek ↔
      Calendar.isoWeek moment.date.dayNumber = Calendar.isoWeek other.date.dayNumber := by
  rw [← Int64.toInt_inj, ← Int64.toInt_inj, shows.isoYear, shows.isoWeek, otherShows.isoYear,
    otherShows.isoWeek, Int.ofNat_inj]
  generalize Calendar.isoWeek moment.date.dayNumber = week
  generalize Calendar.isoWeek other.date.dayNumber = otherWeek
  cases week
  cases otherWeek
  exact Iff.of_eq (IsoWeek.mk.injEq ..).symm

/-- The first days of ISO weeks are the same exactly if their Mondays are. -/
theorem firstDayOfIsoWeek_eq_iff (shows : parts.Shows moment) (otherShows : others.Shows other)
    (valid : moment.date.isValid = true) (otherValid : other.date.isValid = true) :
    parts.firstDayOfIsoWeek = others.firstDayOfIsoWeek ↔
      monday moment.date.dayNumber = monday other.date.dayNumber := by
  have isMonday := monday_mod moment.date.dayNumber
  have isMondayToo := monday_mod other.date.dayNumber
  rw [← map_toInt_inj, shows.firstDayOfIsoWeek, otherShows.firstDayOfIsoWeek]
  exact sinceStart?_week_inj (by omega) (leastInstant_lt_of_isValid valid (daysFromMonday_lt _))
    (leastInstant_lt_of_isValid otherValid (daysFromMonday_lt _))

/-- The first days of weeks are the same exactly if their Sundays are. -/
theorem firstDayOfWeek_eq_iff (shows : parts.Shows moment) (otherShows : others.Shows other)
    (valid : moment.date.isValid = true) (otherValid : other.date.isValid = true) :
    parts.firstDayOfWeek = others.firstDayOfWeek ↔
      sunday moment.date.dayNumber = sunday other.date.dayNumber := by
  have isSunday := sunday_mod moment.date.dayNumber
  have isSundayToo := sunday_mod other.date.dayNumber
  rw [← map_toInt_inj, shows.firstDayOfWeek, otherShows.firstDayOfWeek]
  exact sinceStart?_week_inj (by omega) (leastInstant_lt_of_isValid valid (daysFromSunday_lt _))
    (leastInstant_lt_of_isValid otherValid (daysFromSunday_lt _))

/-- In one year, weeks are the same exactly if their Sundays are. -/
theorem week_eq_iff (shows : parts.Shows moment) (otherShows : others.Shows other)
    (proper : moment.IsProper) (otherProper : other.IsProper)
    (sameYear : parts.year = others.year) :
    parts.week = others.week ↔ sunday moment.date.dayNumber = sunday other.date.dayNumber := by
  have dateYear : moment.date.year = other.date.year := by
    rw [← shows.year, ← otherShows.year, sameYear]
  rw [← Int64.toInt_inj, shows.week, otherShows.week, Int.ofNat_inj,
    plainWeek_eq_iff proper.date otherProper.date dateYear]

/-- Seven days later it is the next ISO week. -/
theorem isWeekAfter (shows : parts.Shows moment) (laterShows : others.Shows other)
    (weekLater : other.date.dayNumber = moment.date.dayNumber + 7) : others.IsWeekAfter parts := by
  rw [IsWeekAfter, shows.isoYear, shows.isoWeek, laterShows.isoYear, laterShows.isoWeek, weekLater]
  rcases isoWeek_add_week moment.date.dayNumber with sameYear | nextYear
  · rw [sameYear]
    exact Or.inl ⟨rfl, rfl⟩
  · rw [nextYear]
    exact Or.inr ⟨rfl, rfl⟩

theorem tellsWeek (shows : parts.Shows moment) (otherShows : others.Shows other)
    (proper : moment.IsProper) (otherProper : other.IsProper)
    (valid : moment.date.isValid = true) (otherValid : other.date.isValid = true) :
    parts.TellsWeek others where
  isoWeek_range := by
    obtain ⟨weekPos, weekLe⟩ := isoWeek_week_bounds moment.date.dayNumber
    rw [shows.isoWeek]
    omega
  week_range := by
    have weekLe := plainWeek_le proper.date (daysFromSunday moment.date.dayNumber)
    rw [shows.week]
    omega
  isoWeek_iff := by
    rw [shows.isoWeek_eq_iff otherShows, Calendar.isoWeek_eq_iff,
      shows.firstDayOfIsoWeek_eq_iff otherShows valid otherValid]
  week_iff := by
    apply and_congr_right
    intro sameYear
    rw [shows.week_eq_iff otherShows proper otherProper sameYear,
      shows.firstDayOfWeek_eq_iff otherShows valid otherValid]

end DateParts.Shows

/-- In the calendar, the numbers of weeks tell whether two days lie in one week, and seven days
later it is the next ISO week. -/
theorem exists_parts_tellsWeek {second : Int} (representable : isRepresentable millis = true)
    (otherRepresentable : isRepresentable second = true) :
    ∃ parts others : DateParts, parts.IsOf millis ∧ others.IsOf second ∧ parts.TellsWeek others ∧
      (isRepresentable (millis + 7 * dayMillis) = true →
        ∃ later : DateParts, later.IsOf (millis + 7 * dayMillis) ∧ later.IsWeekAfter parts) := by
  obtain ⟨moment, parts, proper, valid, instant, isOf, shows⟩ := exists_shown representable
  obtain ⟨other, others, otherProper, otherValid, -, otherIsOf, otherShows⟩ :=
    exists_shown otherRepresentable
  refine ⟨parts, others, isOf, otherIsOf,
    shows.tellsWeek otherShows proper otherProper valid otherValid, ?_⟩
  intro laterRepresentable
  obtain ⟨laterMoment, later, laterProper, -, laterInstant, laterIsOf, laterShows⟩ :=
    exists_shown laterRepresentable
  have weekLater : laterMoment.date.dayNumber = moment.date.dayNumber + 7 := by
    rw [← Moment.millis_div_dayMillis laterProper, ← Moment.millis_div_dayMillis proper,
      laterInstant, instant]
    exact Int.add_mul_ediv_right _ _ (by decide)
  exact ⟨later, laterIsOf, shows.isWeekAfter laterShows weekLater⟩

/-- The 28th of December 2020 and the 3rd of January 2021, the ends of an ISO week with days of two
years. -/
theorem exists_parts_tellsWeek_yearEnd :
    isRepresentable 1609113600000 = true ∧ isRepresentable 1609632000000 = true ∧
      ∃ parts others later : DateParts, parts.IsOf 1609113600000 ∧ others.IsOf 1609632000000 ∧
        parts.TellsWeek others ∧ later.IsOf (1609113600000 + 7 * dayMillis) ∧
        later.IsWeekAfter parts := by
  have representable : isRepresentable 1609113600000 = true := by decide
  have otherRepresentable : isRepresentable 1609632000000 = true := by decide
  obtain ⟨parts, others, isOf, otherIsOf, tells, after⟩ :=
    exists_parts_tellsWeek representable otherRepresentable
  obtain ⟨later, laterIsOf, isAfter⟩ := after (by decide)
  exact ⟨representable, otherRepresentable, parts, others, later, isOf, otherIsOf, tells, laterIsOf,
    isAfter⟩

end Weeks

end TableFlow
