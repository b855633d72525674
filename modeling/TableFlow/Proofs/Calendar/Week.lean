import TableFlow.Calendar.Date
import TableFlow.Proofs.Calendar.Date

/-!
# Weeks and their numbers

All Mondays are whole weeks apart, and so are all Sundays and all Thursdays.  Therefore the number
of a week tells the week: two days have the same ISO year and week exactly if they have the same
Monday, and two days of a year have the same plain week exactly if they have the same Sunday.  From
one ISO week to the next the number grows by one, or starts again at one in the next year.

Main statements: `isoWeek_eq_iff`, `plainWeek_eq_iff` and `isoWeek_add_week`.
-/

namespace TableFlow.Calendar

namespace Date

variable {date : Date}

theorem dayOfYear_eq (date : Date) :
    (date.dayOfYear : Int) = date.dayNumber + epochOffset - daysBeforeYear date.year + 1 := by
  rw [dayNumber]
  omega

theorem dayOfYear_bounds (proper : date.IsProper) : 1 ≤ date.dayOfYear ∧ date.dayOfYear ≤ 366 := by
  obtain ⟨starts, ends⟩ := dayNumber_holds proper
  have whole := dayOfYear_eq date
  have length := daysBeforeYear_succ date.year
  split at length <;> omega

end Date

theorem dayOfYear_ofDayNumber (number : Int) :
    ((Date.ofDayNumber number).dayOfYear : Int) =
      number + epochOffset - daysBeforeYear (Date.ofDayNumber number).year + 1 := by
  rw [Date.dayOfYear_eq, Date.dayNumber_ofDayNumber]

/-- The year that holds a day is the year of its date. -/
theorem year_ofDayNumber {number year : Int} (starts : daysBeforeYear year ≤ number + epochOffset)
    (ends : number + epochOffset < daysBeforeYear (year + 1)) :
    (Date.ofDayNumber number).year = year :=
  yearOfDay_eq starts ends

theorem daysFromMonday_lt (number : Int) : daysFromMonday number < 7 := by
  rw [daysFromMonday]
  omega

theorem daysFromSunday_lt (number : Int) : daysFromSunday number < 7 := by
  rw [daysFromSunday]
  omega

theorem daysFromSunday_eq (number : Int) :
    daysFromSunday number = (daysFromMonday number + 1) % 7 := by
  rw [daysFromSunday, daysFromMonday]
  omega

/-- The Monday of the week of a day. -/
def monday (number : Int) : Int :=
  number - daysFromMonday number

/-- The Sunday on which the week of a day starts. -/
def sunday (number : Int) : Int :=
  number - daysFromSunday number

/-- Mondays are whole weeks apart; the day with number -3 is one. -/
theorem monday_mod (number : Int) : (monday number + 3) % 7 = 0 := by
  rw [monday, daysFromMonday]
  omega

/-- Sundays are whole weeks apart; the day with number -4 is one. -/
theorem sunday_mod (number : Int) : (sunday number + 4) % 7 = 0 := by
  rw [sunday, daysFromSunday]
  omega

theorem monday_add_week (number : Int) : monday (number + 7) = monday number + 7 := by
  rw [monday, monday, daysFromMonday, daysFromMonday]
  omega

theorem isoWeek_eq (number : Int) :
    isoWeek number =
      { year := (Date.ofDayNumber (monday number + 3)).year
        week := ((Date.ofDayNumber (monday number + 3)).dayOfYear - 1) / 7 + 1 } :=
  rfl

/-- An ISO year and week are those of one Monday. -/
theorem isoWeek_eq_iff {first second : Int} :
    isoWeek first = isoWeek second ↔ monday first = monday second := by
  constructor
  · intro same
    rw [isoWeek_eq, isoWeek_eq, IsoWeek.mk.injEq] at same
    obtain ⟨yearEq, weekEq⟩ := same
    have firstDay := dayOfYear_ofDayNumber (monday first + 3)
    have secondDay := dayOfYear_ofDayNumber (monday second + 3)
    have firstMonday := monday_mod first
    have secondMonday := monday_mod second
    obtain ⟨firstPos, -⟩ := Date.dayOfYear_bounds (Date.isProper_ofDayNumber (monday first + 3))
    obtain ⟨secondPos, -⟩ := Date.dayOfYear_bounds (Date.isProper_ofDayNumber (monday second + 3))
    rw [yearEq] at firstDay
    omega
  · intro same
    rw [isoWeek_eq, isoWeek_eq, same]

theorem isoWeek_week_bounds (number : Int) :
    1 ≤ (isoWeek number).week ∧ (isoWeek number).week ≤ 53 := by
  obtain ⟨dayPos, dayLe⟩ := Date.dayOfYear_bounds (Date.isProper_ofDayNumber (monday number + 3))
  rw [isoWeek_eq]
  dsimp only
  omega

/-- The year of an ISO week is the year of its days, or a year before or after it. -/
theorem isoWeek_year_bounds {date : Date} (proper : date.IsProper) :
    date.year - 1 ≤ (isoWeek date.dayNumber).year ∧
      (isoWeek date.dayNumber).year ≤ date.year + 1 := by
  obtain ⟨starts, ends⟩ := Date.dayNumber_holds proper
  obtain ⟨isoStarts, isoEnds⟩ := yearOfDay_holds (monday date.dayNumber + 3 + epochOffset)
  have sinceMonday := daysFromMonday_lt date.dayNumber
  have counted : monday date.dayNumber + daysFromMonday date.dayNumber = date.dayNumber :=
    Int.sub_add_cancel _ _
  have before := daysBeforeYear_succ (date.year - 1)
  have after := daysBeforeYear_succ (date.year + 1)
  rw [Int.sub_add_cancel] at before
  constructor
  · apply (le_year_iff isoStarts isoEnds).2
    split at before <;> omega
  · apply Int.lt_add_one_iff.1
    apply Int.not_le.1
    intro later
    have started := (le_year_iff isoStarts isoEnds).1 later
    split at after <;> omega

/-- After an ISO week comes the next week of the year, or the first week of the next year. -/
theorem isoWeek_add_week (number : Int) :
    isoWeek (number + 7) = ⟨(isoWeek number).year, (isoWeek number).week + 1⟩ ∨
      isoWeek (number + 7) = ⟨(isoWeek number).year + 1, 1⟩ := by
  obtain ⟨starts, ends⟩ := Date.dayNumber_holds (Date.isProper_ofDayNumber (monday number + 3))
  rw [Date.dayNumber_ofDayNumber] at starts ends
  have day := dayOfYear_ofDayNumber (monday number + 3)
  have laterDay := dayOfYear_ofDayNumber (monday number + 7 + 3)
  rw [isoWeek_eq, isoWeek_eq, monday_add_week]
  generalize (Date.ofDayNumber (monday number + 3)).year = year at starts ends day ⊢
  by_cases sameYear : monday number + 7 + 3 + epochOffset < daysBeforeYear (year + 1)
  · have laterYear : (Date.ofDayNumber (monday number + 7 + 3)).year = year :=
      year_ofDayNumber (by omega) sameYear
    rw [laterYear] at laterDay ⊢
    left
    simp only [IsoWeek.mk.injEq, true_and]
    omega
  · have length := daysBeforeYear_succ (year + 1)
    have laterYear : (Date.ofDayNumber (monday number + 7 + 3)).year = year + 1 :=
      year_ofDayNumber (by omega) (by split at length <;> omega)
    rw [laterYear] at laterDay ⊢
    right
    simp only [IsoWeek.mk.injEq, true_and]
    omega

section Plain

variable {first second : Date}

/-- Within a year, a plain week is that of one Sunday. -/
theorem plainWeek_eq_iff (firstProper : first.IsProper) (secondProper : second.IsProper)
    (sameYear : first.year = second.year) :
    plainWeek first (daysFromSunday first.dayNumber) =
        plainWeek second (daysFromSunday second.dayNumber) ↔
      sunday first.dayNumber = sunday second.dayNumber := by
  have firstDay := Date.dayOfYear_eq first
  have secondDay := Date.dayOfYear_eq second
  have firstSunday := sunday_mod first.dayNumber
  have secondSunday := sunday_mod second.dayNumber
  have firstLt := daysFromSunday_lt first.dayNumber
  have secondLt := daysFromSunday_lt second.dayNumber
  obtain ⟨firstPos, -⟩ := Date.dayOfYear_bounds firstProper
  obtain ⟨secondPos, -⟩ := Date.dayOfYear_bounds secondProper
  rw [sameYear] at firstDay
  simp only [plainWeek, sunday] at *
  omega

theorem plainWeek_le (proper : first.IsProper) (sinceStart : Nat) :
    plainWeek first sinceStart ≤ 53 := by
  obtain ⟨-, dayLe⟩ := Date.dayOfYear_bounds proper
  rw [plainWeek]
  omega

end Plain

end TableFlow.Calendar
