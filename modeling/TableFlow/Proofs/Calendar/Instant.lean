import TableFlow.Calendar.Instant
import TableFlow.Number.Basic
import TableFlow.Proofs.Calendar.Date

/-!
# Instants and moments

A moment with a proper date and a time of the day is proper.  Every instant is that of one proper
moment, which is the moment computed for it, and it lies in the calendar exactly if the year of this
moment does.

Main statements: `Moment.millis_ofMillis`, `Moment.ofMillis_millis` and `isRepresentable_iff`.
-/

namespace TableFlow.Calendar

open TableFlow.Number

namespace Moment

/-- A moment with a proper date and a time of the day. -/
structure IsProper (moment : Moment) : Prop where
  date : moment.date.IsProper
  hour_lt : moment.hour < 24
  minute_lt : moment.minute < 60
  second_lt : moment.second < 60
  milli_lt : moment.milli < 1000

variable {moment : Moment}

theorem millisOfDay_lt (proper : moment.IsProper) : (moment.millisOfDay : Int) < dayMillis := by
  have hour := proper.hour_lt
  have minute := proper.minute_lt
  have second := proper.second_lt
  have milli := proper.milli_lt
  simp only [millisOfDay, dayMillis]
  omega

/-- The day of a moment is that of its instant. -/
theorem millis_div_dayMillis (proper : moment.IsProper) :
    moment.millis / dayMillis = moment.date.dayNumber := by
  have inDay := millisOfDay_lt proper
  simp only [Moment.millis, dayMillis] at inDay ⊢
  omega

theorem isProper_ofMillis (millis : Int) : (ofMillis millis).IsProper where
  date := Date.isProper_ofDayNumber _
  hour_lt := by
    simp only [ofMillis, dayMillis]
    omega
  minute_lt := Nat.mod_lt _ (by decide)
  second_lt := Nat.mod_lt _ (by decide)
  milli_lt := Nat.mod_lt _ (by decide)

/-- The moment of an instant has that instant. -/
theorem millis_ofMillis (millis : Int) : (ofMillis millis).millis = millis := by
  simp only [Moment.millis, millisOfDay, ofMillis, Date.dayNumber_ofDayNumber, dayMillis]
  omega

/-- A proper moment is the moment of its instant. -/
theorem ofMillis_millis (proper : moment.IsProper) : ofMillis moment.millis = moment := by
  have inDay := millisOfDay_lt proper
  have timeOfDay : (moment.millis % dayMillis).toNat = moment.millisOfDay := by
    simp only [Moment.millis, dayMillis] at inDay ⊢
    omega
  rw [ofMillis, millis_div_dayMillis proper, timeOfDay, Date.ofDayNumber_dayNumber proper.date]
  obtain ⟨date, hour, minute, second, milli⟩ := moment
  obtain ⟨-, hourLt, minuteLt, secondLt, milliLt⟩ := proper
  simp only [millisOfDay, mk.injEq, true_and] at *
  omega

/-- Proper moments of one instant are the same. -/
theorem IsProper.eq_of_millis_eq {other : Moment} (proper : moment.IsProper)
    (otherProper : other.IsProper)
    (same : moment.millis = other.millis) : moment = other := by
  rw [← ofMillis_millis proper, same, ofMillis_millis otherProper]

/-- A moment is not before a year exactly if its instant is not before the first instant of that
year. -/
theorem le_year_iff_midnight_le (proper : moment.IsProper) (year : Int) :
    year ≤ moment.date.year ↔ Date.midnight ⟨year, 1, 1⟩ ≤ moment.millis := by
  have inDay := millisOfDay_lt proper
  rw [Date.le_year_iff_le_dayNumber proper.date]
  simp only [Date.midnight, Moment.millis, dayMillis] at inDay ⊢
  omega

/-- The first instant of the calendar is that of its first year. -/
theorem leastInstant_le_iff (proper : moment.IsProper) :
    leastInstant ≤ moment.millis ↔ leastYear ≤ moment.date.year :=
  (le_year_iff_midnight_le proper leastYear).symm

/-- After the last instant of the calendar comes the year after its last one. -/
theorem le_greatestInstant_iff (proper : moment.IsProper) :
    moment.millis ≤ greatestInstant ↔ moment.date.year ≤ greatestYear := by
  have after : Date.midnight ⟨greatestYear + 1, 1, 1⟩ = greatestInstant + 1 := rfl
  have notBefore := le_year_iff_midnight_le proper (greatestYear + 1)
  omega

end Moment

theorem isRepresentable_iff_between {millis : Int} :
    isRepresentable millis = true ↔ leastInstant ≤ millis ∧ millis ≤ greatestInstant := by
  rw [isRepresentable, Bool.and_eq_true, decide_eq_true_eq, decide_eq_true_eq]

/-- An instant lies in the calendar exactly if its year does. -/
theorem isRepresentable_iff {moment : Moment} (proper : moment.IsProper) :
    isRepresentable moment.millis = true ↔
      leastYear ≤ moment.date.year ∧ moment.date.year ≤ greatestYear := by
  rw [isRepresentable_iff_between, Moment.leastInstant_le_iff proper,
    Moment.le_greatestInstant_iff proper]

theorem isValid_ofMillis {millis : Int} (representable : isRepresentable millis = true) :
    (Moment.ofMillis millis).date.isValid = true := by
  have proper := Moment.isProper_ofMillis millis
  rw [← Moment.millis_ofMillis millis, isRepresentable_iff proper] at representable
  exact Date.isValid_iff.2 ⟨proper.date, representable⟩

/-- Instants of the calendar are words. -/
theorem word?_instant {instant : Int} (least : leastInstant ≤ instant)
    (greatest : instant ≤ greatestInstant) : word? instant = some (Int64.ofInt instant) := by
  rw [word?, if_pos]
  simp only [leastInstant, greatestInstant, leastWord, greatestWord] at *
  omega

end TableFlow.Calendar
