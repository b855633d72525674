import TableFlow.Json.Number
import TableFlow.Json.Text

/-!
# Reading documents

Only blank, tab, line feed and carriage return may stand between tokens, and arrays
and objects may nest `depthLimit` deep. The remaining depth is what the recursion
counts down, so reading a nested document is reading with one level less.
-/

namespace TableFlow.Json

/-- How deep arrays and objects may nest in a text. -/
def depthLimit : Nat := 127

/-- The characters that may stand between tokens. -/
def isSpace (char : Char) : Bool :=
  char == ' ' || char == '\t' || char == '\n' || char == '\r'

/-- Drop the spaces in front. -/
def skipSpaces (chars : List Char) : List Char :=
  chars.dropWhile isSpace

/-- Read a document that is neither an array nor an object. -/
def readScalar? : List Char → Option (Json × List Char)
  | 'n' :: 'u' :: 'l' :: 'l' :: rest => some (.null, rest)
  | 't' :: 'r' :: 'u' :: 'e' :: rest => some (.boolean true, rest)
  | 'f' :: 'a' :: 'l' :: 's' :: 'e' :: rest => some (.boolean false, rest)
  | '"' :: rest => (readString? rest).map fun (text, rest) => (.string text, rest)
  | chars => readNumber? chars

/-- Read entries separated by commas up to a closing bracket, at least one and at most
`count`. -/
def readEntries {α : Type} (entry : List Char → Option (α × List Char)) (close : Char) :
    (count : Nat) → List Char → Option (List α × List Char)
  | 0, _ => none
  | count + 1, chars =>
      match entry (skipSpaces chars) with
      | none => none
      | some (value, rest) =>
          match skipSpaces rest with
          | [] => none
          | char :: rest =>
              if char = ',' then
                (readEntries entry close count rest).map fun (values, rest) =>
                  (value :: values, rest)
              else if char = close then some ([value], rest)
              else none

/-- Read the entries of an array or object after its opening bracket. -/
def readBracket {α : Type} (entry : List Char → Option (α × List Char)) (close : Char)
    (chars : List Char) : Option (List α × List Char) :=
  match skipSpaces chars with
  | [] => none
  | char :: rest =>
      if char = close then some ([], rest)
      else readEntries entry close chars.length (char :: rest)

/-- Read a field: a string, a colon and a document. -/
def readField (value : List Char → Option (Json × List Char)) :
    List Char → Option ((String × Json) × List Char)
  | '"' :: rest =>
      match readString? rest with
      | none => none
      | some (name, rest) =>
          match skipSpaces rest with
          | ':' :: rest => (value (skipSpaces rest)).map fun (item, rest) => ((name, item), rest)
          | _ => none
  | _ => none

/-- Read a document in which arrays and objects nest at most `depth` deep. -/
def readValue : (depth : Nat) → List Char → Option (Json × List Char)
  | 0, chars => readScalar? chars
  | depth + 1, chars =>
      match chars with
      | '[' :: rest =>
          (readBracket (readValue depth) ']' rest).map fun (items, rest) => (.array items, rest)
      | '\x7b' :: rest =>
          (readBracket (readField (readValue depth)) '\x7d' rest).map fun (fields, rest) =>
            (.object fields, rest)
      | _ => readScalar? chars

/-- Read a text that holds one document and nothing else. -/
def readChars? (chars : List Char) : Option Json :=
  match readValue depthLimit (skipSpaces chars) with
  | none => none
  | some (document, rest) => if (skipSpaces rest).isEmpty then some document else none

/-- Read a text that holds one document and nothing else. -/
def read? (text : String) : Option Json :=
  readChars? text.toList

end TableFlow.Json
