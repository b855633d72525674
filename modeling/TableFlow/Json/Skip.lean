import TableFlow.Json.Reader
import TableFlow.Json.Record

/-!
# Records with unread fields

A text that stores a record may have fields that the record does not know. Their values have to be
well formed but are not read: they may nest to any depth, their numbers may be too large for a
float, and their strings may hold surrogates on their own.
-/

namespace TableFlow.Json

/-- Pass the rest of a string whose opening quote has been passed. -/
def skipString? : List Char → Option (List Char)
  | [] => none
  | '"' :: rest => some rest
  | '\\' :: 'u' :: first :: second :: third :: fourth :: rest =>
      match hexUnit? first second third fourth with
      | some _ => skipString? rest
      | none => none
  | '\\' :: letter :: rest =>
      match shortEscape? letter with
      | some _ => skipString? rest
      | none => none
  | char :: rest => if char = '\\' ∨ char < ' ' then none else skipString? rest

/-- Pass a number without its sign. -/
def skipMagnitude? (chars : List Char) : Option (List Char) :=
  match readDigits? chars with
  | none => none
  | some (whole, afterWhole) =>
      if whole.head? = some '0' ∧ whole.length ≠ 1 then none
      else
        match afterWhole with
        | '.' :: afterPoint =>
            match readDigits? afterPoint with
            | none => none
            | some (_, afterFraction) => (readExponent? afterFraction).map Prod.snd
        | _ => (readExponent? afterWhole).map Prod.snd

/-- Pass a document that is neither an array nor an object. -/
def skipScalar? : List Char → Option (List Char)
  | 'n' :: 'u' :: 'l' :: 'l' :: rest => some rest
  | 't' :: 'r' :: 'u' :: 'e' :: rest => some rest
  | 'f' :: 'a' :: 'l' :: 's' :: 'e' :: rest => some rest
  | '"' :: rest => skipString? rest
  | '-' :: rest => skipMagnitude? rest
  | chars => skipMagnitude? chars

/-- Pass a field: a string, a colon and a document. -/
def skipField (value : List Char → Option (Unit × List Char)) :
    List Char → Option (Unit × List Char)
  | '"' :: rest =>
      match (skipString? rest).map skipSpaces with
      | some (':' :: rest) => value (skipSpaces rest)
      | _ => none
  | _ => none

/-- Pass a document in which arrays and objects nest at most `depth` deep. -/
def skipValue : (depth : Nat) → List Char → Option (Unit × List Char)
  | 0, chars => (skipScalar? chars).map fun rest => ((), rest)
  | depth + 1, chars =>
      match chars with
      | '[' :: rest => (readBracket (skipValue depth) ']' rest).map fun (_, rest) => ((), rest)
      | '\x7b' :: rest =>
          (readBracket (skipField (skipValue depth)) '\x7d' rest).map fun (_, rest) => ((), rest)
      | _ => (skipScalar? chars).map fun rest => ((), rest)

/-- Read a field of a record with the given names; the value of another field is passed and
counts as null. No document nests deeper than it has characters. -/
def readKnownField (names : List String) : List Char → Option ((String × Json) × List Char)
  | '"' :: rest =>
      match readString? rest with
      | none => none
      | some (name, rest) =>
          match skipSpaces rest with
          | ':' :: rest =>
              if names.contains name then
                (readValue depthLimit (skipSpaces rest)).map fun (item, rest) =>
                  ((name, item), rest)
              else
                (skipValue rest.length (skipSpaces rest)).map fun (_, rest) =>
                  ((name, .null), rest)
          | _ => none
  | _ => none

/-- Read a text that stores a record with the given names. -/
def readRecord? (names : List String) (text : String) : Option (List (Option Json)) :=
  match skipSpaces text.toList with
  | '\x7b' :: rest =>
      match readBracket (readKnownField names) '\x7d' rest with
      | some (fields, rest) =>
          if (skipSpaces rest).isEmpty then record? names (.object fields) else none
      | none => none
  | chars => (readChars? chars).bind (record? names)

end TableFlow.Json
