/-!
# Date patterns

A pattern is a text in which a percent sign starts a specifier for a part of a date
or time; all other characters stand for themselves. Numbers are padded with zeros,
with blanks or not at all; a flag before the letter changes the padding of a single
number, and is refused before anything else. Some letters stand for several items.
-/

namespace TableFlow.Calendar

/-- How a number is filled up to its width. -/
inductive Padding where
  | none
  | blanks
  | zeros
  deriving DecidableEq

/-- The numbers that a pattern can show. -/
inductive NumberPart where
  | year
  | century
  | yearOfCentury
  | isoYear
  | isoYearOfCentury
  | quarter
  | month
  | day
  | weekFromSunday
  | weekFromMonday
  | isoWeek
  | daysFromSunday
  | dayFromMonday
  | dayOfYear
  | hour
  | hourOfHalf
  | minute
  | second
  | nanosecond
  | epochSecond
  deriving DecidableEq

/-- How an offset from universal time is written. -/
inductive OffsetStyle where
  | compact
  | colon
  | seconds
  | hours
  | permissive
  deriving DecidableEq

/-- The parts that a pattern shows as names or in a fixed form. -/
inductive NamedPart where
  | shortMonth
  | longMonth
  | shortWeekday
  | longWeekday
  | lowerHalf
  | upperHalf
  | fraction
  | fractionDigits (count : Nat) (point : Bool)
  | zone
  | offset (style : OffsetStyle)
  deriving DecidableEq

inductive PatternItem where
  | literal (char : Char)
  | number (part : NumberPart) (padding : Padding)
  | named (part : NamedPart)
  deriving DecidableEq

namespace PatternItem

/-- A number padded with zeros. -/
abbrev zeros (part : NumberPart) : PatternItem := .number part .zeros

/-- A number padded with blanks. -/
abbrev blanks (part : NumberPart) : PatternItem := .number part .blanks

/-- A number as short as it is. -/
abbrev bare (part : NumberPart) : PatternItem := .number part .none

/-- Month, day and year of the century with slashes. -/
def slashedDate : List PatternItem :=
  [zeros .month, .literal '/', zeros .day, .literal '/', zeros .yearOfCentury]

/-- Year, month and day with dashes. -/
def dashedDate : List PatternItem :=
  [zeros .year, .literal '-', zeros .month, .literal '-', zeros .day]

/-- Hours and minutes. -/
def shortTime : List PatternItem :=
  [zeros .hour, .literal ':', zeros .minute]

/-- Hours, minutes and seconds. -/
def fullTime : List PatternItem :=
  shortTime ++ [.literal ':', zeros .second]

/-- Hours of the half day, minutes, seconds and the name of the half. -/
def halfDayTime : List PatternItem :=
  [zeros .hourOfHalf, .literal ':', zeros .minute, .literal ':', zeros .second, .literal ' ',
   .named .upperHalf]

/-- Day, name of the month and year with dashes. -/
def namedDate : List PatternItem :=
  [blanks .day, .literal '-', .named .shortMonth, .literal '-', zeros .year]

/-- Weekday, month, day, time and year. -/
def fullDate : List PatternItem :=
  [.named .shortWeekday, .literal ' ', .named .shortMonth, .literal ' ', blanks .day,
   .literal ' '] ++ fullTime ++ [.literal ' ', zeros .year]

/-- Date, time, fraction and offset as one word. -/
def offsetInstant : List PatternItem :=
  dashedDate ++ [.literal 'T'] ++ fullTime ++ [.named .fraction, .named (.offset .colon)]

/-- The letters that stand for a single number. -/
def number? : Char → Option PatternItem
  | 'Y' => some (zeros .year)
  | 'C' => some (zeros .century)
  | 'y' => some (zeros .yearOfCentury)
  | 'G' => some (zeros .isoYear)
  | 'g' => some (zeros .isoYearOfCentury)
  | 'q' => some (bare .quarter)
  | 'm' => some (zeros .month)
  | 'd' => some (zeros .day)
  | 'e' => some (blanks .day)
  | 'U' => some (zeros .weekFromSunday)
  | 'W' => some (zeros .weekFromMonday)
  | 'V' => some (zeros .isoWeek)
  | 'w' => some (bare .daysFromSunday)
  | 'u' => some (bare .dayFromMonday)
  | 'j' => some (zeros .dayOfYear)
  | 'H' => some (zeros .hour)
  | 'k' => some (blanks .hour)
  | 'I' => some (zeros .hourOfHalf)
  | 'l' => some (blanks .hourOfHalf)
  | 'M' => some (zeros .minute)
  | 'S' => some (zeros .second)
  | 'f' => some (zeros .nanosecond)
  | 's' => some (bare .epochSecond)
  | _ => none

/-- The letters that stand for anything else. -/
def others? : Char → Option (List PatternItem)
  | 'b' => some [.named .shortMonth]
  | 'h' => some [.named .shortMonth]
  | 'B' => some [.named .longMonth]
  | 'a' => some [.named .shortWeekday]
  | 'A' => some [.named .longWeekday]
  | 'P' => some [.named .lowerHalf]
  | 'p' => some [.named .upperHalf]
  | 'Z' => some [.named .zone]
  | 'z' => some [.named (.offset .compact)]
  | 'D' => some slashedDate
  | 'x' => some slashedDate
  | 'F' => some dashedDate
  | 'v' => some namedDate
  | 'R' => some shortTime
  | 'T' => some fullTime
  | 'X' => some fullTime
  | 'r' => some halfDayTime
  | 'c' => some fullDate
  | '+' => some offsetInstant
  | 't' => some [.literal '\t']
  | 'n' => some [.literal '\n']
  | '%' => some [.literal '%']
  | _ => none

/-- A number with the padding that a flag asks for. -/
def padded? (padding : Padding) : List Char → Option (List PatternItem × List Char)
  | [] => none
  | letter :: rest =>
      match number? letter with
      | some (.number part _) => some ([.number part padding], rest)
      | _ => none

/-- A fraction with a given number of digits, named by a letter. -/
def digits? (count : Nat) (point : Bool) : List Char → Option (List PatternItem × List Char)
  | 'f' :: rest => some ([.named (.fractionDigits count point)], rest)
  | _ => none

/-- A fraction with its point. -/
def pointed? : List Char → Option (List PatternItem × List Char)
  | 'f' :: rest => some ([.named .fraction], rest)
  | '3' :: rest => digits? 3 true rest
  | '6' :: rest => digits? 6 true rest
  | '9' :: rest => digits? 9 true rest
  | _ => none

/-- An offset with colons. -/
def offset? : List Char → Option (List PatternItem × List Char)
  | 'z' :: rest => some ([.named (.offset .colon)], rest)
  | ':' :: 'z' :: rest => some ([.named (.offset .seconds)], rest)
  | ':' :: ':' :: 'z' :: rest => some ([.named (.offset .hours)], rest)
  | _ => none

/-- Read a specifier after its percent sign. -/
def specifier? : List Char → Option (List PatternItem × List Char)
  | [] => none
  | '-' :: rest => padded? .none rest
  | '_' :: rest => padded? .blanks rest
  | '0' :: rest => padded? .zeros rest
  | '.' :: rest => pointed? rest
  | '3' :: rest => digits? 3 false rest
  | '6' :: rest => digits? 6 false rest
  | '9' :: rest => digits? 9 false rest
  | ':' :: rest => offset? rest
  | '#' :: 'z' :: rest => some ([.named (.offset .permissive)], rest)
  | letter :: rest =>
      match number? letter with
      | some item => some ([item], rest)
      | none => (others? letter).map fun items => (items, rest)

theorem padded?_length {padding : Padding} {chars rest : List Char} {items : List PatternItem}
    (read : padded? padding chars = some (items, rest)) : rest.length < chars.length := by
  unfold padded? at read
  split at read
  · contradiction
  · split at read
    · simp_all
    · contradiction

theorem digits?_length {count : Nat} {point : Bool} {chars rest : List Char}
    {items : List PatternItem} (read : digits? count point chars = some (items, rest)) :
    rest.length < chars.length := by
  unfold digits? at read
  split at read
  · simp_all
  · contradiction

theorem pointed?_length {chars rest : List Char} {items : List PatternItem}
    (read : pointed? chars = some (items, rest)) : rest.length < chars.length := by
  unfold pointed? at read
  split at read
  · simp_all
  · exact Nat.lt_succ_of_lt (digits?_length read)
  · exact Nat.lt_succ_of_lt (digits?_length read)
  · exact Nat.lt_succ_of_lt (digits?_length read)
  · contradiction

theorem offset?_length {chars rest : List Char} {items : List PatternItem}
    (read : offset? chars = some (items, rest)) : rest.length < chars.length := by
  unfold offset? at read
  split at read
  · cases read
    exact Nat.lt_succ_self _
  · cases read
    simp only [List.length_cons]
    omega
  · cases read
    simp only [List.length_cons]
    omega
  · contradiction

theorem specifier?_length {chars rest : List Char} {items : List PatternItem}
    (read : specifier? chars = some (items, rest)) : rest.length < chars.length := by
  unfold specifier? at read
  split at read
  · contradiction
  · exact Nat.lt_succ_of_lt (padded?_length read)
  · exact Nat.lt_succ_of_lt (padded?_length read)
  · exact Nat.lt_succ_of_lt (padded?_length read)
  · exact Nat.lt_succ_of_lt (pointed?_length read)
  · exact Nat.lt_succ_of_lt (digits?_length read)
  · exact Nat.lt_succ_of_lt (digits?_length read)
  · exact Nat.lt_succ_of_lt (digits?_length read)
  · exact Nat.lt_succ_of_lt (offset?_length read)
  · cases read
    simp only [List.length_cons]
    omega
  · split at read
    · simp_all
    · simp only [Option.map_eq_some_iff] at read
      obtain ⟨_, _, same⟩ := read
      simp_all

end PatternItem

/-- The items of a pattern; none if a specifier is unknown or incomplete. -/
def readPattern? (chars : List Char) : Option (List PatternItem) :=
  match chars with
  | [] => some []
  | char :: rest =>
      if char = '%' then
        match read : PatternItem.specifier? rest with
        | none => none
        | some (items, after) =>
            have := PatternItem.specifier?_length read
            (readPattern? after).map fun later => items ++ later
      else (readPattern? rest).map fun later => .literal char :: later
termination_by chars.length

end TableFlow.Calendar
