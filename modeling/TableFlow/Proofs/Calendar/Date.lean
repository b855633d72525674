import Mathlib.Tactic.IntervalCases
import TableFlow.Calendar.Date

/-!
# Dates and day numbers

A date with a month of the year and a day of that month is proper.  Every number is that of one
proper date, which is the date computed for it; the first of January 1970 has number 0.

Main statements: `Date.dayNumber_ofDayNumber` and `Date.ofDayNumber_dayNumber`.
-/

namespace TableFlow.Calendar

/-- A year has 365 days, or 366 if it is a leap year. -/
theorem daysBeforeYear_succ (year : Int) :
    daysBeforeYear (year + 1) = daysBeforeYear year + if isLeap year then 366 else 365 := by
  simp only [daysBeforeYear, isLeap, Bool.and_eq_true, Bool.or_eq_true, decide_eq_true_eq]
  split <;> omega

theorem daysBeforeYear_mono {first second : Int} (ordered : first ≤ second) :
    daysBeforeYear first ≤ daysBeforeYear second := by
  rcases Int.le_iff_lt_or_eq.1 ordered with before | rfl
  · simp only [daysBeforeYear]
    omega
  · exact Int.le_refl _

/-- The guess from the average length of a year is corrected to the year that holds the day. -/
theorem yearOfDay_holds (days : Int) :
    daysBeforeYear (yearOfDay days) ≤ days ∧ days < daysBeforeYear (yearOfDay days + 1) := by
  simp only [yearOfDay]
  split
  · simp only [daysBeforeYear] at *
    omega
  · split
    · simp only [daysBeforeYear] at *
      omega
    · omega

/-- A year that holds a day is not before the years that start up to that day. -/
theorem le_year_iff {days year other : Int} (starts : daysBeforeYear year ≤ days)
    (ends : days < daysBeforeYear (year + 1)) : other ≤ year ↔ daysBeforeYear other ≤ days := by
  constructor
  · intro ordered
    exact Int.le_trans (daysBeforeYear_mono ordered) starts
  · intro started
    by_contra later
    have ended := daysBeforeYear_mono (show year + 1 ≤ other by omega)
    omega

/-- Only one year holds a day. -/
theorem yearOfDay_eq {days year : Int} (starts : daysBeforeYear year ≤ days)
    (ends : days < daysBeforeYear (year + 1)) : yearOfDay days = year := by
  obtain ⟨foundStarts, foundEnds⟩ := yearOfDay_holds days
  have notAfter := (le_year_iff starts ends).2 foundStarts
  have notBefore := (le_year_iff foundStarts foundEnds).2 starts
  omega

theorem daysBeforeMonth_succ (year : Int) {month : Nat} (first : 1 ≤ month) (last : month ≤ 12) :
    daysBeforeMonth year (month + 1) = daysBeforeMonth year month + monthLength year month := by
  interval_cases month <;> simp [daysBeforeMonth, monthLength, monthLengths] <;> omega

theorem daysBeforeMonth_le (year : Int) {month : Nat} (first : 1 ≤ month) (last : month ≤ 12) :
    daysBeforeMonth year (month + 1) ≤ daysBeforeMonth year 13 := by
  interval_cases month <;> simp [daysBeforeMonth, monthLengths]

/-- The months of a year make up the year. -/
theorem daysBeforeMonth_end (year : Int) :
    (daysBeforeMonth year 13 : Int) = daysBeforeYear (year + 1) - daysBeforeYear year := by
  rw [daysBeforeYear_succ]
  simp only [daysBeforeMonth, monthLengths]
  split <;> simp

theorem monthLength_pos (year : Int) {month : Nat} (first : 1 ≤ month) (last : month ≤ 12) :
    1 ≤ monthLength year month := by
  interval_cases month <;> simp [monthLength, monthLengths]
  split <;> simp

theorem monthLength_le (year : Int) {month : Nat} (first : 1 ≤ month) (last : month ≤ 12) :
    monthLength year month ≤ 31 := by
  interval_cases month <;> simp [monthLength, monthLengths]
  split <;> simp

/-- A day of the year, counted from zero, is a day of a month, both counted from one. -/
structure IsSplit (lengths : List Nat) (days month day : Nat) : Prop where
  month_pos : 1 ≤ month
  month_le : month ≤ lengths.length
  day_pos : 1 ≤ day
  day_le : day ≤ lengths.getD (month - 1) 0
  total : (lengths.take (month - 1)).foldr (· + ·) 0 + day = days + 1

section Split

variable {length days month day : Nat} {rest lengths : List Nat}

theorem isSplit_first_iff :
    IsSplit (length :: rest) days 1 day ↔ days < length ∧ day = days + 1 := by
  constructor
  · rintro ⟨-, -, -, dayLe, total⟩
    simp only [Nat.sub_self, List.getD_cons_zero, List.take_zero, List.foldr_nil] at dayLe total
    omega
  · rintro ⟨inMonth, rfl⟩
    exact ⟨Nat.le_refl 1, Nat.le_add_left 1 _, Nat.le_add_left 1 _, inMonth, Nat.zero_add _⟩

theorem isSplit_later_iff (monthPos : 1 ≤ month) :
    IsSplit (length :: rest) days (month + 1) day ↔
      length ≤ days ∧ IsSplit rest (days - length) month day := by
  obtain ⟨earlier, rfl⟩ : ∃ earlier, month = earlier + 1 :=
    ⟨month - 1, (Nat.sub_add_cancel monthPos).symm⟩
  constructor
  · rintro ⟨-, monthLe, dayPos, dayLe, total⟩
    simp only [Nat.add_one_sub_one, List.getD_cons_succ, List.take_succ_cons, List.foldr_cons,
      List.length_cons] at monthLe dayLe total
    refine ⟨by omega, monthPos, by omega, dayPos, dayLe, ?_⟩
    rw [Nat.add_one_sub_one]
    omega
  · rintro ⟨later, -, monthLe, dayPos, dayLe, total⟩
    refine ⟨Nat.le_add_left 1 _, Nat.succ_le_succ monthLe, dayPos, dayLe, ?_⟩
    rw [Nat.add_one_sub_one] at total
    rw [Nat.add_one_sub_one, List.take_succ_cons, List.foldr_cons]
    omega

/-- The days of a year are split among its months. -/
theorem isSplit_splitDays (inYear : days < lengths.foldr (· + ·) 0) :
    IsSplit lengths days (splitDays lengths days).1 (splitDays lengths days).2 := by
  induction lengths generalizing days with
  | nil => exact absurd inYear (Nat.not_lt_zero days)
  | cons length rest ih =>
      rw [splitDays]
      split
      · rename_i here
        exact isSplit_first_iff.2 ⟨here, rfl⟩
      · rename_i later
        have inRest : days - length < rest.foldr (· + ·) 0 := by
          rw [List.foldr_cons] at inYear
          omega
        have found := ih inRest
        exact (isSplit_later_iff found.month_pos).2 ⟨Nat.not_lt.1 later, found⟩

/-- There is one way to split a day of the year. -/
theorem splitDays_eq (found : IsSplit lengths days month day) :
    splitDays lengths days = (month, day) := by
  induction lengths generalizing days month with
  | nil => exact absurd (Nat.le_trans found.month_pos found.month_le) (Nat.not_succ_le_zero 0)
  | cons length rest ih =>
      rw [splitDays]
      rcases Nat.eq_or_lt_of_le found.month_pos with rfl | later
      · obtain ⟨here, rfl⟩ := isSplit_first_iff.1 found
        rw [if_pos here]
      · obtain ⟨earlier, rfl⟩ : ∃ earlier, month = earlier + 1 :=
          ⟨month - 1, (Nat.sub_add_cancel found.month_pos).symm⟩
        obtain ⟨after, inRest⟩ := (isSplit_later_iff (Nat.le_of_lt_succ later)).1 found
        rw [if_neg (Nat.not_lt.2 after), ih inRest]

end Split

namespace Date

/-- A date with a month of the year and a day of that month. -/
structure IsProper (date : Date) : Prop where
  month_pos : 1 ≤ date.month
  month_le : date.month ≤ 12
  day_pos : 1 ≤ date.day
  day_le : date.day ≤ monthLength date.year date.month

variable {date : Date}

theorem IsProper.day_le_longest (proper : date.IsProper) : date.day ≤ 31 :=
  Nat.le_trans proper.day_le (monthLength_le date.year proper.month_pos proper.month_le)

/-- Every month has a first day. -/
theorem isProper_monthStart (year : Int) {month : Nat} (first : 1 ≤ month) (last : month ≤ 12) :
    IsProper ⟨year, month, 1⟩ :=
  ⟨first, last, Nat.le_refl 1, monthLength_pos year first last⟩

/-- The number of a date lies in its year. -/
theorem dayNumber_holds (proper : date.IsProper) :
    daysBeforeYear date.year ≤ date.dayNumber + epochOffset ∧
      date.dayNumber + epochOffset < daysBeforeYear (date.year + 1) := by
  have afterMonth := daysBeforeMonth_succ date.year proper.month_pos proper.month_le
  have inYear := daysBeforeMonth_le date.year proper.month_pos proper.month_le
  have afterYear := daysBeforeMonth_end date.year
  have dayPos := proper.day_pos
  have dayLe := proper.day_le
  simp only [dayNumber, dayOfYear]
  omega

/-- A date is not before a year exactly if its number is not before the first day of that year. -/
theorem le_year_iff_le_dayNumber (proper : date.IsProper) (year : Int) :
    year ≤ date.year ↔ dayNumber ⟨year, 1, 1⟩ ≤ date.dayNumber := by
  obtain ⟨starts, ends⟩ := dayNumber_holds proper
  have start : daysBeforeMonth year 1 = 0 := rfl
  rw [le_year_iff starts ends]
  simp only [dayNumber, dayOfYear, start]
  omega

theorem ofDayNumber_eq (number : Int) :
    ofDayNumber number =
      { year := yearOfDay (number + epochOffset)
        month := (splitDays (monthLengths (yearOfDay (number + epochOffset)))
          (number + epochOffset - daysBeforeYear (yearOfDay (number + epochOffset))).toNat).1
        day := (splitDays (monthLengths (yearOfDay (number + epochOffset)))
          (number + epochOffset - daysBeforeYear (yearOfDay (number + epochOffset))).toNat).2 } :=
  rfl

/-- The date of a number is proper and has that number. -/
theorem ofDayNumber_holds (number : Int) :
    (ofDayNumber number).IsProper ∧ (ofDayNumber number).dayNumber = number := by
  obtain ⟨starts, ends⟩ := yearOfDay_holds (number + epochOffset)
  rw [ofDayNumber_eq]
  generalize yearOfDay (number + epochOffset) = year at starts ends ⊢
  have allMonths : (monthLengths year).foldr (· + ·) 0 = daysBeforeMonth year 13 := rfl
  have bound : (number + epochOffset - daysBeforeYear year).toNat <
      (monthLengths year).foldr (· + ·) 0 := by
    have afterYear := daysBeforeMonth_end year
    omega
  obtain ⟨monthPos, monthLe, dayPos, dayLe, total⟩ := isSplit_splitDays bound
  refine ⟨⟨monthPos, monthLe, dayPos, dayLe⟩, ?_⟩
  simp only [dayNumber, dayOfYear, daysBeforeMonth]
  omega

theorem isProper_ofDayNumber (number : Int) : (ofDayNumber number).IsProper :=
  (ofDayNumber_holds number).1

theorem dayNumber_ofDayNumber (number : Int) : (ofDayNumber number).dayNumber = number :=
  (ofDayNumber_holds number).2

/-- A proper date is the date of its number. -/
theorem ofDayNumber_dayNumber (proper : date.IsProper) : ofDayNumber date.dayNumber = date := by
  obtain ⟨starts, ends⟩ := dayNumber_holds proper
  have found : IsSplit (monthLengths date.year)
      (date.dayNumber + epochOffset - daysBeforeYear date.year).toNat date.month date.day := by
    refine ⟨proper.month_pos, proper.month_le, proper.day_pos, proper.day_le, ?_⟩
    have dayPos := proper.day_pos
    simp only [dayNumber, dayOfYear, daysBeforeMonth]
    omega
  rw [ofDayNumber_eq, yearOfDay_eq starts ends, splitDays_eq found]

/-- Days are counted from the first of January 1970. -/
example : ofDayNumber 0 = ⟨1970, 1, 1⟩ := by decide

/-- The index of a month tells the year and the month. -/
theorem year_month_of_monthIndex {other : Date} (proper : date.IsProper)
    (otherProper : other.IsProper) (same : date.monthIndex = other.monthIndex) :
    date.year = other.year ∧ date.month = other.month := by
  have monthPos := proper.month_pos
  have monthLe := proper.month_le
  have otherPos := otherProper.month_pos
  have otherLe := otherProper.month_le
  simp only [Date.monthIndex] at same
  omega

/-- A date of the calendar is a proper date in one of its years. -/
theorem isValid_iff :
    date.isValid = true ↔ date.IsProper ∧ leastYear ≤ date.year ∧ date.year ≤ greatestYear := by
  simp only [isValid, Bool.and_eq_true, decide_eq_true_eq]
  constructor
  · rintro ⟨⟨⟨⟨⟨least, greatest⟩, monthPos⟩, monthLe⟩, dayPos⟩, dayLe⟩
    exact ⟨⟨monthPos, monthLe, dayPos, dayLe⟩, least, greatest⟩
  · rintro ⟨⟨monthPos, monthLe, dayPos, dayLe⟩, least, greatest⟩
    exact ⟨⟨⟨⟨⟨least, greatest⟩, monthPos⟩, monthLe⟩, dayPos⟩, dayLe⟩

end Date

end TableFlow.Calendar
