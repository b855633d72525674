import TableFlow.Calendar.Instant
import TableFlow.Number.Reader
import TableFlow.Text.Blank

/-!
# Reading instants

A text may give an instant in several layouts: a strict one with fixed widths and an
offset from universal time, and lenient ones for dates with or without a time of day.
The layouts are tried in order and the first that fits the whole text decides; a bare
year of four digits is the last resort. A second may be given as 60, which is one
second after 59.
-/

namespace TableFlow.Calendar

open TableFlow.Number
open TableFlow.Text

/-- The parts of a text that a layout reads. -/
structure Reading where
  year : Int := 0
  month : Nat := 0
  day : Nat := 0
  hour : Nat := 0
  minute : Nat := 0
  second : Nat := 0
  nano : Nat := 0

/-- The numbers that a layout may hold. -/
inductive Field where
  | year
  | month
  | day
  | hour
  | minute
  | second
  deriving DecidableEq

/-- A piece of a layout. -/
inductive Piece where
  | number (field : Field)
  | literal (char : Char)
  | blanks
  | fraction
  deriving DecidableEq

/-- Take digits from the front of a text: at least `least` of them, and no more than
`most`. -/
def takeNumber? (least most : Nat) (chars : List Char) : Option (Nat × List Char) :=
  let digits := (chars.take most).takeWhile isDigit
  if digits.length < least then none else some (digitsValue digits, chars.drop digits.length)

/-- Take digits behind a sign, as many as there are. -/
def takeAll? (chars : List Char) : Option (Nat × List Char) :=
  takeNumber? 1 chars.length chars

/-- Take a year: up to four digits, or a sign and any number of digits. -/
def takeYear? : List Char → Option (Int × List Char)
  | '-' :: rest => (takeAll? rest).map fun (year, rest) => (-Int.ofNat year, rest)
  | '+' :: rest => (takeAll? rest).map fun (year, rest) => (Int.ofNat year, rest)
  | chars => (takeNumber? 1 4 chars).map fun (year, rest) => (Int.ofNat year, rest)

/-- Take digits as a fraction of a second, in nanoseconds; digits after the ninth are
dropped. -/
def takeFraction? (chars : List Char) : Option (Nat × List Char) :=
  match takeNumber? 1 9 chars with
  | none => none
  | some (value, rest) =>
      some (value * tenTo (9 - (chars.length - rest.length)), rest.dropWhile isDigit)

/-- Whether a value may stand in a field at all. -/
def Field.admits : Field → Int → Bool
  | .year, _ => true
  | .month, value => 1 ≤ value && value ≤ 12
  | .day, value => 1 ≤ value && value ≤ 31
  | .hour, value => 0 ≤ value && value ≤ 23
  | .minute, value => 0 ≤ value && value ≤ 59
  | .second, value => 0 ≤ value && value ≤ 60

/-- Put a value in a field. -/
def Reading.set (reading : Reading) (field : Field) (value : Int) : Reading :=
  match field with
  | .year => { reading with year := value }
  | .month => { reading with month := value.toNat }
  | .day => { reading with day := value.toNat }
  | .hour => { reading with hour := value.toNat }
  | .minute => { reading with minute := value.toNat }
  | .second => { reading with second := value.toNat }

/-- Read one number of a layout. -/
def takeField? (field : Field) (chars : List Char) : Option (Int × List Char) :=
  let taken :=
    match field with
    | .year => takeYear? chars
    | _ => (takeNumber? 1 2 chars).map fun (value, rest) => (Int.ofNat value, rest)
  taken.filter fun (value, _) => field.admits value

/-- Read a text by a layout. Blanks before a number are skipped; nothing may be left
over. -/
def readLayout? : List Piece → Reading → List Char → Option Reading
  | [], reading, chars => if chars.isEmpty then some reading else none
  | .number field :: pieces, reading, chars =>
      match takeField? field (trimStart chars) with
      | none => none
      | some (value, rest) => readLayout? pieces (reading.set field value) rest
  | .literal char :: pieces, reading, chars =>
      match chars with
      | [] => none
      | first :: rest => if first = char then readLayout? pieces reading rest else none
  | .blanks :: pieces, reading, chars => readLayout? pieces reading (trimStart chars)
  | .fraction :: pieces, reading, chars =>
      match chars with
      | '.' :: rest =>
          match takeFraction? rest with
          | none => none
          | some (nano, rest) => readLayout? pieces { reading with nano } rest
      | _ => readLayout? pieces reading chars

/-- The date of a reading, if the calendar has it. -/
def Reading.date? (reading : Reading) : Option Date :=
  let date : Date := { year := reading.year, month := reading.month, day := reading.day }
  if date.isValid then some date else none

/-- The instant of a reading in universal time, rounded down to milliseconds. -/
def Reading.instant? (reading : Reading) : Option Int :=
  reading.date?.map fun date =>
    date.midnight +
      (((reading.hour * 60 + reading.minute) * 60 + reading.second) * 1000 +
        reading.nano / 1000000 : Nat)

/-- Year, month and day with dashes. -/
def dashedDate : List Piece :=
  [.number .year, .literal '-', .number .month, .literal '-', .number .day]

/-- Hours and minutes. -/
def shortTime : List Piece :=
  [.number .hour, .literal ':', .number .minute]

/-- Hours, minutes and seconds. -/
def fullTime : List Piece :=
  shortTime ++ [.literal ':', .number .second]

/-- The lenient layouts with a time of day, in the order in which they are tried. -/
def timeLayouts : List (List Piece) :=
  [ dashedDate ++ [.literal 'T'] ++ fullTime ++ [.fraction],
    dashedDate ++ [.literal 'T'] ++ fullTime,
    dashedDate ++ [.literal 'T'] ++ shortTime,
    dashedDate ++ [.blanks] ++ fullTime ++ [.fraction],
    dashedDate ++ [.blanks] ++ fullTime,
    dashedDate ++ [.blanks] ++ shortTime ]

/-- The layouts of a date alone, in the order in which they are tried. -/
def dateLayouts : List (List Piece) :=
  [ dashedDate,
    [.number .month, .literal '/', .number .day, .literal '/', .number .year],
    [.number .year, .literal '/', .number .month, .literal '/', .number .day] ]

/-- The instant of a text in one layout. -/
def instantIn? (chars : List Char) (layout : List Piece) : Option Int :=
  (readLayout? layout {} chars).bind Reading.instant?

/-- Take a number of fixed width that a field admits. -/
def takeFixed? (field : Field) (width : Nat) (chars : List Char) : Option (Nat × List Char) :=
  (takeNumber? width width chars).filter fun (value, _) => field.admits value

/-- Take a character. -/
def takeChar? (char : Char) : List Char → Option (List Char)
  | first :: rest => if first = char then some rest else none
  | [] => none

/-- The minus sign of typography. -/
def minusSign : Char := Char.ofNat 0x2212

/-- Take an offset from universal time, in minutes. -/
def takeOffset? : List Char → Option (Int × List Char)
  | [] => none
  | sign :: rest =>
      if sign = 'Z' ∨ sign = 'z' then some (0, rest)
      else if sign = '+' ∨ sign = '-' ∨ sign = minusSign then do
        let (hours, rest) ← takeNumber? 2 2 rest
        let rest ← takeChar? ':' rest
        let (minutes, rest) ← takeNumber? 2 2 rest
        if hours ≤ 23 ∧ minutes ≤ 59 then
          let offset : Int := hours * 60 + minutes
          some (if sign = '+' then offset else -offset, rest)
        else none
      else none

/-- Read a date and time of fixed widths with an offset from universal time. -/
def readOffsetInstant? (chars : List Char) : Option Int := do
  let (year, rest) ← takeFixed? .year 4 chars
  let rest ← takeChar? '-' rest
  let (month, rest) ← takeFixed? .month 2 rest
  let rest ← takeChar? '-' rest
  let (day, rest) ← takeFixed? .day 2 rest
  let rest ←
    match rest with
    | mark :: rest => if mark = 'T' ∨ mark = 't' ∨ mark = ' ' then some rest else none
    | [] => none
  let (hour, rest) ← takeFixed? .hour 2 rest
  let rest ← takeChar? ':' rest
  let (minute, rest) ← takeFixed? .minute 2 rest
  let rest ← takeChar? ':' rest
  let (second, rest) ← takeFixed? .second 2 rest
  let (nano, rest) ←
    match rest with
    | '.' :: rest => takeFraction? rest
    | _ => some (0, rest)
  let (offset, rest) ← takeOffset? rest
  if rest.isEmpty then
    let reading : Reading := { year, month, day, hour, minute, second, nano }
    reading.instant?.map fun instant => instant - offset * 60000
  else none

/-- A bare year of four digits means its first instant. -/
def readYear? (chars : List Char) : Option Int :=
  if chars.length = 4 ∧ chars.all isDigit then
    instantIn? (chars ++ "-1-1".toList) dashedDate
  else none

/-- The instant that a text gives, in milliseconds. -/
def readInstant? (chars : List Char) : Option Int :=
  (readOffsetInstant? chars).or <|
    (timeLayouts.findSome? (instantIn? chars)).or <|
      (dateLayouts.findSome? (instantIn? chars)).or (readYear? chars)

end TableFlow.Calendar
