import TableFlow.Json.Basic
import TableFlow.Json.Text
import TableFlow.Number.Layout

/-!
# Writing documents

The written form has no spaces and keeps the fields of an object in their order. A
float that is not finite has no written form of its own and is written as `null`.
-/

namespace TableFlow.Json

open TableFlow.Number

/-- A float in a document. -/
def writeFloat (value : Float) : List Char :=
  match Binary.ofFloat value with
  | .finite negative mantissa exponent =>
      (documentLayout.finite negative mantissa exponent).toList
  | _ => "null".toList

mutual

/-- The characters of a document. -/
def write : Json → List Char
  | .null => "null".toList
  | .boolean value => if value then "true".toList else "false".toList
  | .integer value => (intText value).toList
  | .float value => writeFloat value
  | .string value => writeString value
  | .array items => '[' :: writeItems items ++ [']']
  | .object fields => '\x7b' :: writeFields fields ++ ['\x7d']

/-- Documents separated by commas. -/
def writeItems : List Json → List Char
  | [] => []
  | [item] => item.write
  | item :: rest => item.write ++ ',' :: writeItems rest

/-- Fields separated by commas. -/
def writeFields : List (String × Json) → List Char
  | [] => []
  | [(name, value)] => writeString name ++ ':' :: value.write
  | (name, value) :: rest => writeString name ++ ':' :: value.write ++ ',' :: writeFields rest

end

/-- The text of a document. -/
def render (document : Json) : String :=
  String.ofList document.write

end TableFlow.Json
