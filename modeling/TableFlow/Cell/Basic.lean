import TableFlow.Calendar.Printer
import TableFlow.Number.Layout

/-!
# Cells

A cell of a table is empty or holds a value of one of five kinds. Integers and
timestamps have 64 bits; a timestamp counts milliseconds since the start of 1970.
This module holds the cells, their kinds and their texts.
-/

namespace TableFlow

open TableFlow.Number

/-- The kinds of values. -/
inductive Kind where
  | boolean
  | integer
  | float
  | text
  | timestamp
  deriving DecidableEq

namespace Kind

/-- The name of a kind in messages. -/
def name : Kind → String
  | .boolean => "boolean"
  | .integer => "integer"
  | .float => "float"
  | .text => "string"
  | .timestamp => "timestamp"

/-- The name of a kind in reports on operands. -/
def title : Kind → String
  | .boolean => "Boolean"
  | .integer => "Integer"
  | .float => "Float"
  | .text => "String"
  | .timestamp => "Timestamp"

/-- Whether values of a kind are numbers. -/
def isNumeric : Kind → Bool
  | .integer => true
  | .float => true
  | _ => false

end Kind

/-- A cell of a table. -/
inductive Cell where
  | null
  | boolean (value : Bool)
  | integer (value : Int64)
  | float (value : Float)
  | text (value : String)
  | timestamp (millis : Int64)

namespace Cell

/-- The kind of a cell; an empty cell has none. -/
def kind? : Cell → Option Kind
  | .null => none
  | .boolean _ => some .boolean
  | .integer _ => some .integer
  | .float _ => some .float
  | .text _ => some .text
  | .timestamp _ => some .timestamp

/-- Whether a cell is empty. -/
def isNull : Cell → Bool
  | .null => true
  | _ => false

/-- The cells that are not empty. -/
def filled (cells : List Cell) : List Cell :=
  cells.filter fun cell => !cell.isNull

/-- A 64-bit integer as the nearest float. -/
def floatOf (value : Int64) : Float :=
  Float.ofInt value.toInt

/-- The value of a cell as a float, if it is a number. -/
def number? : Cell → Option Float
  | .integer value => some (floatOf value)
  | .float value => some value
  | _ => none

/-- The value of a cell that holds text. -/
def text? : Cell → Option String
  | .text value => some value
  | _ => none

/-- The text of a cell; an empty cell has an empty text. -/
def render : Cell → String
  | .null => ""
  | .boolean value => if value then "true" else "false"
  | .integer value => intText value.toInt
  | .float value => floatText value
  | .text value => value
  | .timestamp millis => Calendar.instantText millis.toInt

/-- The text of a cell as a literal: texts stand in single quotes. -/
def display : Cell → String
  | .null => "null"
  | .text value => "'" ++ value ++ "'"
  | cell => cell.render

end Cell

end TableFlow
