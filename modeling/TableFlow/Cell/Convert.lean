import TableFlow.Calendar.Reader
import TableFlow.Cell.Basic
import TableFlow.Json.Record
import TableFlow.Number.Reader
import TableFlow.Text.Blank

/-!
# Conversion of cells

A cell can be converted to another kind; what cannot be represented there becomes
empty. Numbers stand for nanoseconds since the start of 1970 where dates are
concerned, while timestamps themselves count milliseconds.

A literal in a document becomes a cell: an integer of 64 bits stays an integer, and any
other number is a float. Documents have no timestamps, so a timestamp is written as the
integer it counts and comes back as an integer.
-/

namespace TableFlow

open TableFlow.Number

/-- What cells can be converted to. -/
inductive Conversion where
  | integer
  | float
  | text
  | date
  | boolean
  deriving DecidableEq

namespace Cell

/-- Nanoseconds in a millisecond. -/
def nanosPerMilli : Int := 1000000

/-- A cell for an integer that may be too large. -/
def ofInt? (value : Int) : Cell :=
  match word? value with
  | some value => .integer value
  | none => .null

/-- The integer part of a float between the bounds of 64-bit integers, as floats: the
upper bound itself rounds up to a power of two and is clamped. -/
def truncated (value : Float) : Cell :=
  match truncate? value with
  | some whole =>
      if leastWord ≤ whole ∧ whole ≤ greatestWord + 1 then .integer (nearestWord whole) else .null
  | none => .null

/-- Conversion to an integer. -/
def toInteger : Cell → Cell
  | .null => .null
  | .integer value => .integer value
  | .float value => truncated value
  | .boolean value => .integer (if value then 1 else 0)
  | .timestamp millis => ofInt? (millis.toInt * nanosPerMilli)
  | .text value =>
      let chars := Text.trimChars value.toList
      match readWord? chars with
      | some value => .integer value
      | none =>
          match readFloat? chars with
          | some value => truncated value
          | none => .null

/-- Conversion to a float. -/
def toFloat : Cell → Cell
  | .null => .null
  | .float value => .float value
  | .integer value => .float (floatOf value)
  | .boolean value => .float (if value then 1.0 else 0.0)
  | .timestamp millis => .float (floatOf millis * 1000000.0)
  | .text value =>
      match readFloat? (Text.trimChars value.toList) with
      | some value => .float value
      | none => .null

/-- Conversion to text; an empty cell stays empty. -/
def toText : Cell → Cell
  | .null => .null
  | cell => .text cell.render

/-- The instant that a text gives, as a cell. -/
def dateOfText (chars : List Char) : Cell :=
  match (Calendar.readInstant? chars).bind word? with
  | some millis => .timestamp millis
  | none => .null

/-- Conversion to a timestamp. -/
def toDate : Cell → Cell
  | .null => .null
  | .timestamp millis => .timestamp millis
  | .integer value => .timestamp (Int64.ofInt (value.toInt / nanosPerMilli))
  | .float value =>
      if isFinite value then
        match floor? (value / 1000000.0) with
        | some millis => .timestamp (nearestWord millis)
        | none => .null
      else .null
  | .text value => dateOfText (Text.trimChars value.toList)
  | .boolean _ => .null

/-- Conversion to a boolean: everything but nothing, zero and the empty text is true. -/
def toBoolean : Cell → Cell
  | .null => .boolean false
  | .boolean value => .boolean value
  | .integer value => .boolean (value != 0)
  | .float value => .boolean (value != 0.0)
  | .text value => .boolean (!value.isEmpty)
  | .timestamp _ => .boolean true

def convert (conversion : Conversion) (cell : Cell) : Cell :=
  match conversion with
  | .integer => cell.toInteger
  | .float => cell.toFloat
  | .text => cell.toText
  | .date => cell.toDate
  | .boolean => cell.toBoolean

/-- The cell of a literal. -/
def ofJson? : Json → Option Cell
  | .null => some .null
  | .boolean value => some (.boolean value)
  | .integer value =>
      match Number.word? value with
      | some word => some (.integer word)
      | none => some (.float (Float.ofInt value))
  | .float value => some (.float value)
  | .string value => some (.text value)
  | _ => none

/-- A cell as a literal. -/
def toJson : Cell → Json
  | .null => .null
  | .boolean value => .boolean value
  | .integer value => .integer value.toInt
  | .float value => .float value
  | .text value => .string value
  | .timestamp millis => .integer millis.toInt

end Cell

end TableFlow
