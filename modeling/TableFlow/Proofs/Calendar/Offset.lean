import TableFlow.Proofs.Calendar.Layout

/-!
# Offsets from universal time

An instant with an offset is read in stages: the date, the mark behind it, the time of the day, a
fraction that may be missing, and the offset.  Texts that have neither the letter for universal time
nor three colons have no offset, and are left to the other layouts.

Main statements: `readOffsetInstant?_eq_none` and `readInstant?_without_time`.
-/

namespace TableFlow.Calendar

open TableFlow.Number

section Offset

variable {char : Char} {chars rest : List Char}

theorem takeChar?_eq_some (taken : takeChar? char chars = some rest) : chars = char :: rest := by
  cases chars with
  | nil => contradiction
  | cons first others =>
      obtain ⟨rfl, rfl⟩ : first = char ∧ others = rest := by simpa [takeChar?] using taken
      rfl

theorem takeFixed?_suffix {field : Field} {width value : Nat}
    (taken : takeFixed? field width chars = some (value, rest)) : rest <:+ chars :=
  takeNumber?_suffix (Option.filter_eq_some_iff.1 taken).1

/-- Read an offset at the end of a text. -/
def readOffset? (reading : Reading) (chars : List Char) : Option Int :=
  (takeOffset? chars).bind fun offset =>
    if offset.2.isEmpty then reading.instant?.map fun instant => instant - offset.1 * 60000
    else none

/-- Read an offset behind a fraction that may be missing. -/
def readFractionOffset? (reading : Reading) (chars : List Char) : Option Int :=
  if chars.head? = some '.' then
    (takeFraction? chars.tail).bind fun fraction =>
      readOffset? { reading with nano := fraction.1 } fraction.2
  else readOffset? reading chars

/-- Read a time of the day of fixed widths and what follows it. -/
def readOffsetTime? (reading : Reading) (chars : List Char) : Option Int :=
  (takeFixed? .hour 2 chars).bind fun hour =>
    (takeChar? ':' hour.2).bind fun rest =>
      (takeFixed? .minute 2 rest).bind fun minute =>
        (takeChar? ':' minute.2).bind fun rest =>
          (takeFixed? .second 2 rest).bind fun second =>
            readFractionOffset?
              { reading with hour := hour.1, minute := minute.1, second := second.1 } second.2

/-- Read the mark between date and time, and what follows it. -/
def readMarkedTime? (reading : Reading) : List Char → Option Int
  | mark :: rest =>
      if mark = 'T' ∨ mark = 't' ∨ mark = ' ' then readOffsetTime? reading rest else none
  | [] => none

/-- An instant with an offset is read in stages: the date, the mark, the time, the fraction, the
offset. -/
theorem readOffsetInstant?_eq (chars : List Char) :
    readOffsetInstant? chars =
      (takeFixed? .year 4 chars).bind fun year =>
        (takeChar? '-' year.2).bind fun rest =>
          (takeFixed? .month 2 rest).bind fun month =>
            (takeChar? '-' month.2).bind fun rest =>
              (takeFixed? .day 2 rest).bind fun day =>
                readMarkedTime? { year := year.1, month := month.1, day := day.1 } day.2 := by
  unfold readOffsetInstant?
  refine Option.bind_congr ?_
  rintro ⟨year, afterYear⟩ -
  refine Option.bind_congr fun beforeMonth _ => Option.bind_congr ?_
  rintro ⟨month, afterMonth⟩ -
  refine Option.bind_congr fun beforeDay _ => Option.bind_congr ?_
  rintro ⟨day, afterDay⟩ -
  cases afterDay with
  | nil => rfl
  | cons mark beforeHour =>
      rw [readMarkedTime?]
      dsimp only
      split
      · rw [readOffsetTime?, Option.bind_eq_bind, Option.bind_some]
        refine Option.bind_congr ?_
        rintro ⟨hour, afterHour⟩ -
        refine Option.bind_congr fun beforeMinute _ => Option.bind_congr ?_
        rintro ⟨minute, afterMinute⟩ -
        refine Option.bind_congr fun beforeSecond _ => Option.bind_congr ?_
        rintro ⟨second, afterSecond⟩ -
        dsimp only
        by_cases point : afterSecond.head? = some '.'
        · obtain ⟨digits, rfl⟩ := List.head?_eq_some_iff.1 point
          exact (if_pos rfl).symm
        · rw [readFractionOffset?, if_neg point]
          split
          · exact absurd rfl point
          · rfl
      · rfl

/-- A text has the letter for universal time, or so many colons. -/
def ShowsOffset (colons : Nat) (chars : List Char) : Prop :=
  'Z' ∈ chars ∨ 'z' ∈ chars ∨ colons ≤ chars.count ':'

theorem ShowsOffset.of_suffix {colons : Nat} (shows : ShowsOffset colons rest)
    (suffix : rest <:+ chars) :
    ShowsOffset colons chars :=
  shows.imp (fun letter => suffix.subset letter) fun others =>
    others.imp (fun letter => suffix.subset letter) fun enough =>
      Nat.le_trans enough (suffix.count_le ':')

theorem ShowsOffset.colon {colons : Nat} (shows : ShowsOffset colons rest)
    (taken : takeChar? ':' chars = some rest) : ShowsOffset (colons + 1) chars := by
  rw [takeChar?_eq_some taken]
  refine shows.imp (List.mem_cons_of_mem _) fun others =>
    others.imp (List.mem_cons_of_mem _) fun enough => ?_
  rw [List.count_cons_self]
  exact Nat.succ_le_succ enough

section Shows

variable {reading : Reading} {instant : Int}

theorem showsOffset_of_takeOffset? {offset : Int}
    (taken : takeOffset? chars = some (offset, rest)) :
    ShowsOffset 1 chars := by
  cases chars with
  | nil => contradiction
  | cons sign others =>
      rw [takeOffset?] at taken
      split at taken
      · rename_i letter
        rcases letter with rfl | rfl
        · exact .inl List.mem_cons_self
        · exact .inr (.inl List.mem_cons_self)
      · split at taken
        · obtain ⟨hours, takenHours, taken⟩ := Option.bind_eq_some_iff.1 taken
          obtain ⟨behind, takenColon, -⟩ := Option.bind_eq_some_iff.1 taken
          have none : ShowsOffset 0 behind := .inr (.inr (Nat.zero_le _))
          exact ((none.colon takenColon).of_suffix (takeNumber?_suffix takenHours)).of_suffix
            (List.suffix_cons _ _)
        · contradiction

theorem showsOffset_of_readOffset? (read : readOffset? reading chars = some instant) :
    ShowsOffset 1 chars := by
  obtain ⟨offset, taken, -⟩ := Option.bind_eq_some_iff.1 read
  exact showsOffset_of_takeOffset? taken

theorem showsOffset_of_readFractionOffset?
    (read : readFractionOffset? reading chars = some instant) :
    ShowsOffset 1 chars := by
  rw [readFractionOffset?] at read
  split at read
  · obtain ⟨fraction, taken, read⟩ := Option.bind_eq_some_iff.1 read
    exact ((showsOffset_of_readOffset? read).of_suffix (takeFraction?_suffix taken)).of_suffix
      (List.tail_suffix _)
  · exact showsOffset_of_readOffset? read

theorem showsOffset_of_readOffsetTime? (read : readOffsetTime? reading chars = some instant) :
    ShowsOffset 3 chars := by
  obtain ⟨hour, takenHour, read⟩ := Option.bind_eq_some_iff.1 read
  obtain ⟨beforeMinute, takenColon, read⟩ := Option.bind_eq_some_iff.1 read
  obtain ⟨minute, takenMinute, read⟩ := Option.bind_eq_some_iff.1 read
  obtain ⟨beforeSecond, takenNext, read⟩ := Option.bind_eq_some_iff.1 read
  obtain ⟨second, takenSecond, read⟩ := Option.bind_eq_some_iff.1 read
  have behindSeconds := showsOffset_of_readFractionOffset? read
  have behindMinutes := (behindSeconds.of_suffix (takeFixed?_suffix takenSecond)).colon takenNext
  have behindHours := (behindMinutes.of_suffix (takeFixed?_suffix takenMinute)).colon takenColon
  exact behindHours.of_suffix (takeFixed?_suffix takenHour)

theorem showsOffset_of_readMarkedTime? (read : readMarkedTime? reading chars = some instant) :
    ShowsOffset 3 chars := by
  cases chars with
  | nil => contradiction
  | cons mark rest =>
      rw [readMarkedTime?] at read
      split at read
      · exact (showsOffset_of_readOffsetTime? read).of_suffix (List.suffix_cons _ _)
      · contradiction

/-- A text has no offset if it has neither the letter for universal time nor three colons. -/
theorem readOffsetInstant?_eq_none (shows : ¬ ShowsOffset 3 chars) :
    readOffsetInstant? chars = none := by
  rw [Option.eq_none_iff_forall_ne_some]
  intro instant read
  rw [readOffsetInstant?_eq] at read
  obtain ⟨year, takenYear, read⟩ := Option.bind_eq_some_iff.1 read
  obtain ⟨beforeMonth, takenDash, read⟩ := Option.bind_eq_some_iff.1 read
  obtain ⟨month, takenMonth, read⟩ := Option.bind_eq_some_iff.1 read
  obtain ⟨beforeDay, takenNext, read⟩ := Option.bind_eq_some_iff.1 read
  obtain ⟨day, takenDay, read⟩ := Option.bind_eq_some_iff.1 read
  have behindDash : beforeMonth <:+ year.2 := takeChar?_eq_some takenDash ▸ List.suffix_cons _ _
  have behindNext : beforeDay <:+ month.2 := takeChar?_eq_some takenNext ▸ List.suffix_cons _ _
  have behindMonth := behindNext.trans (takeFixed?_suffix takenMonth)
  have behindYear := (behindMonth.trans behindDash).trans (takeFixed?_suffix takenYear)
  exact shows ((showsOffset_of_readMarkedTime? read).of_suffix
    ((takeFixed?_suffix takenDay).trans behindYear))

end Shows

/-- A text without colons and without the letter for universal time is left to the layouts of
dates. -/
theorem readInstant?_without_time (absent : ∀ char ∈ ['Z', 'z', ':'], chars.count char = 0) :
    readInstant? chars =
      (dateLayouts.findSome? (instantIn? chars)).or (readYear? chars) := by
  have colon : chars.count ':' = 0 := absent ':' (by simp)
  have noOffset : readOffsetInstant? chars = none := by
    apply readOffsetInstant?_eq_none
    rintro (letter | letter | enough)
    · exact List.count_eq_zero.1 (absent 'Z' (by simp)) letter
    · exact List.count_eq_zero.1 (absent 'z' (by simp)) letter
    · omega
  have noTime : timeLayouts.findSome? (instantIn? chars) = none := by
    have asked : timeLayouts.all (fun layout => 0 < layout.count (.literal ':')) = true := by decide
    rw [List.findSome?_eq_none_iff]
    intro layout inside
    apply instantIn?_of_fewer
    rw [colon]
    exact of_decide_eq_true (List.all_eq_true.1 asked layout inside)
  rw [readInstant?, noOffset, noTime, Option.none_or, Option.none_or]

end Offset

end TableFlow.Calendar
