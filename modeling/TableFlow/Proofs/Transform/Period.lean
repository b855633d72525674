import Mathlib.Logic.ExistsUnique
import TableFlow.Proofs.Calendar.Instant
import TableFlow.Transform.Evolution

/-!
# One period earlier

A day or a week earlier is a fixed time earlier.  A month or a year earlier is the same time of the
day in the month that stands that many months before, on the same day if that month has it and
otherwise on its last day.  There is no such instant if the calendar has not begun by then.

Main statement: `Period.previous_calendar`.
-/

namespace TableFlow

namespace Calendar

/-- An instant, unless it lies before the first instant of the calendar. -/
def sinceStart? (instant : Int) : Option Int :=
  if Date.midnight ⟨leastYear, 1, 1⟩ ≤ instant then some instant else none

namespace Moment

/-- A moment some months before another one: at the same time of the day, on the same day of the
month or on the last day of a month that is shorter. -/
structure IsMonthsBefore (earlier moment : Moment) (months : Nat) : Prop where
  proper : earlier.IsProper
  time_eq : earlier.millisOfDay = moment.millisOfDay
  monthIndex_eq : earlier.date.monthIndex = moment.date.monthIndex - months
  day_eq : earlier.date.day = min moment.date.day (monthLength earlier.date.year earlier.date.month)

variable {moment earlier other : Moment} {months : Nat}

theorem IsMonthsBefore.unique (before : earlier.IsMonthsBefore moment months)
    (otherBefore : other.IsMonthsBefore moment months) : earlier = other := by
  obtain ⟨yearEq, monthEq⟩ :=
    Date.year_month_of_monthIndex before.proper.date otherBefore.proper.date
      (before.monthIndex_eq.trans otherBefore.monthIndex_eq.symm)
  have dayEq : earlier.date.day = other.date.day := by
    rw [before.day_eq, otherBefore.day_eq, yearEq, monthEq]
  apply before.proper.eq_of_millis_eq otherBefore.proper
  simp only [Moment.millis, Date.dayNumber, Date.dayOfYear, yearEq, monthEq, dayEq, before.time_eq,
    otherBefore.time_eq]

/-- The moment that is computed is the one some months before. -/
theorem isMonthsBefore_monthsBefore (proper : moment.IsProper) (months : Nat) :
    IsMonthsBefore { moment with date := moment.date.monthsBefore months } moment months where
  proper :=
    { date := by
        have dayPos := proper.date.day_pos
        have monthLe : ((moment.date.monthIndex - months) % 12).toNat + 1 ≤ 12 := by omega
        have lengthPos := monthLength_pos ((moment.date.monthIndex - months) / 12)
          (Nat.le_add_left 1 _) monthLe
        exact ⟨Nat.le_add_left 1 _, monthLe, Nat.le_min.2 ⟨dayPos, lengthPos⟩, Nat.min_le_right _ _⟩
      hour_lt := proper.hour_lt
      minute_lt := proper.minute_lt
      second_lt := proper.second_lt
      milli_lt := proper.milli_lt }
  time_eq := rfl
  monthIndex_eq := by
    have index (date : Date) (months : Nat) : (date.monthsBefore months).monthIndex =
        12 * ((date.monthIndex - months) / 12) +
          (((date.monthIndex - months) % 12).toNat + 1 : Nat) - 1 := rfl
    rw [index]
    omega
  day_eq := rfl

theorem IsMonthsBefore.year_le (before : earlier.IsMonthsBefore moment months)
    (proper : moment.IsProper) : earlier.date.year ≤ moment.date.year := by
  have index := before.monthIndex_eq
  have monthPos := before.proper.date.month_pos
  have monthLe := proper.date.month_le
  simp only [Date.monthIndex] at index
  omega

end Moment

/-- Going back by months leads to the moment so many months before, if the calendar has begun by
then. -/
theorem monthsBefore?_eq {moment earlier : Moment} {months : Nat} (proper : moment.IsProper)
    (inCalendar : moment.date.year ≤ greatestYear) (before : earlier.IsMonthsBefore moment months) :
    monthsBefore? moment.millis months = sinceStart? earlier.millis := by
  have notAfter := Int.le_trans (before.year_le proper) inCalendar
  obtain rfl := before.unique (Moment.isMonthsBefore_monthsBefore proper months)
  have valid : (moment.date.monthsBefore months).isValid = true ↔
      Date.midnight ⟨leastYear, 1, 1⟩ ≤
        Moment.millis { moment with date := moment.date.monthsBefore months } := by
    rw [Date.isValid_iff, ← Moment.le_year_iff_midnight_le before.proper]
    exact ⟨fun held => held.2.1, fun least => ⟨before.proper.date, least, notAfter⟩⟩
  simp only [monthsBefore?, Moment.ofMillis_millis proper, valid, sinceStart?]

end Calendar

namespace Period

open TableFlow.Calendar

theorem previous_eq (period : Period) {millis : Int}
    (representable : isRepresentable millis = true) :
    period.previous millis = .ok (period.before? millis) := by
  rw [previous, momentOf, Moment.ofMillis?, if_pos representable]

/-- An instant in the calendar is that of one moment.  A day or a week earlier is that many days
earlier; a month or a year earlier is the one moment that stands 1 or 12 months before.  There is
none exactly if it would lie before the first instant of the calendar. -/
theorem previous_calendar (millis : Int) (representable : isRepresentable millis = true) :
    (∃! moment : Moment, moment.IsProper ∧ moment.millis = millis) ∧
    Period.previous .day millis = .ok (sinceStart? (millis - 1 * dayMillis)) ∧
    Period.previous .week millis = .ok (sinceStart? (millis - 7 * dayMillis)) ∧
    ∀ moment : Moment, moment.IsProper → moment.millis = millis →
      (leastYear ≤ moment.date.year ∧ moment.date.year ≤ greatestYear) ∧
      (∀ months, ∃! earlier : Moment, earlier.IsMonthsBefore moment months) ∧
      (∀ earlier : Moment, earlier.IsMonthsBefore moment 1 →
        Period.previous .month millis = .ok (sinceStart? earlier.millis)) ∧
      ∀ earlier : Moment, earlier.IsMonthsBefore moment 12 →
        Period.previous .year millis = .ok (sinceStart? earlier.millis) := by
  refine ⟨?_, previous_eq _ representable, previous_eq _ representable, ?_⟩
  · refine ⟨Moment.ofMillis millis,
      ⟨Moment.isProper_ofMillis millis, Moment.millis_ofMillis millis⟩, ?_⟩
    rintro other ⟨proper, rfl⟩
    exact (Moment.ofMillis_millis proper).symm
  · rintro moment proper rfl
    have inCalendar := (isRepresentable_iff proper).1 representable
    refine ⟨inCalendar, ?_, ?_, ?_⟩
    · intro months
      exact ⟨_, Moment.isMonthsBefore_monthsBefore proper months,
        fun other before => before.unique (Moment.isMonthsBefore_monthsBefore proper months)⟩
    · intro earlier before
      rw [previous_eq _ representable, before?, monthsBefore?_eq proper inCalendar.2 before]
    · intro earlier before
      rw [previous_eq _ representable, before?, monthsBefore?_eq proper inCalendar.2 before]

/-- Noon of the 29th of February 2024. -/
def leapDay : Moment :=
  { date := ⟨2024, 2, 29⟩, hour := 12, minute := 0, second := 0, milli := 0 }

/-- A year before the 29th of February lies the 28th, and a day before the first instant lies
nothing. -/
theorem previous_calendar_leapDay :
    isRepresentable 1709208000000 = true ∧ leapDay.IsProper ∧ leapDay.millis = 1709208000000 ∧
      Moment.IsMonthsBefore { leapDay with date := ⟨2023, 2, 28⟩ } leapDay 12 ∧
      Period.previous .year 1709208000000 = .ok (some 1677585600000) ∧
      isRepresentable leastInstant = true ∧ Period.previous .day leastInstant = .ok none := by
  have representable : isRepresentable 1709208000000 = true := by decide
  have proper : leapDay.IsProper :=
    ⟨⟨by decide, by decide, by decide, by decide⟩, by decide, by decide, by decide, by decide⟩
  have atNoon : leapDay.millis = 1709208000000 := rfl
  have before : Moment.IsMonthsBefore { leapDay with date := ⟨2023, 2, 28⟩ } leapDay 12 :=
    ⟨⟨⟨by decide, by decide, by decide, by decide⟩, by decide, by decide, by decide, by decide⟩,
      rfl, rfl, rfl⟩
  have first : isRepresentable leastInstant = true := by decide
  obtain ⟨-, -, -, months⟩ := previous_calendar 1709208000000 representable
  obtain ⟨-, -, -, yearBefore⟩ := months leapDay proper atNoon
  obtain ⟨-, dayBefore, -, -⟩ := previous_calendar leastInstant first
  exact ⟨representable, proper, atNoon, before, yearBefore _ before, first, dayBefore⟩

end Period

end TableFlow
