/-!
# Strings in documents

A string stands between double quotes. Writing escapes the quote, the backslash and
the control characters and nothing else. Reading accepts every escape of the format;
a character outside the basic plane may be written as a pair of surrogates, and a
surrogate on its own is refused, as is a raw control character.
-/

namespace TableFlow.Json

/-- The value of a hexadecimal digit. -/
def hexDigit? (char : Char) : Option Nat :=
  if '0' ≤ char ∧ char ≤ '9' then some (char.toNat - '0'.toNat)
  else if 'a' ≤ char ∧ char ≤ 'f' then some (char.toNat - 'a'.toNat + 10)
  else if 'A' ≤ char ∧ char ≤ 'F' then some (char.toNat - 'A'.toNat + 10)
  else none

/-- The value of four hexadecimal digits. -/
def hexUnit? (first second third fourth : Char) : Option Nat := do
  let first ← hexDigit? first
  let second ← hexDigit? second
  let third ← hexDigit? third
  let fourth ← hexDigit? fourth
  return ((first * 16 + second) * 16 + third) * 16 + fourth

/-- The character of a one-letter escape. -/
def shortEscape? : Char → Option Char
  | '"' => some '"'
  | '\\' => some '\\'
  | '/' => some '/'
  | 'b' => some '\x08'
  | 'f' => some '\x0c'
  | 'n' => some '\n'
  | 'r' => some '\r'
  | 't' => some '\t'
  | _ => none

/-- Read the rest of a string whose opening quote has been passed; `passed` holds the
characters already read, latest first. -/
def readStringFrom : List Char → List Char → Option (String × List Char)
  | _, [] => none
  | passed, '"' :: rest => some (String.ofList passed.reverse, rest)
  | passed, '\\' :: 'u' :: first :: second :: third :: fourth :: rest =>
      match hexUnit? first second third fourth with
      | none => none
      | some unit =>
          if 0xDC00 ≤ unit ∧ unit ≤ 0xDFFF then none
          else if 0xD800 ≤ unit ∧ unit ≤ 0xDBFF then
            match rest with
            | '\\' :: 'u' :: fifth :: sixth :: seventh :: eighth :: rest =>
                match hexUnit? fifth sixth seventh eighth with
                | none => none
                | some low =>
                    if 0xDC00 ≤ low ∧ low ≤ 0xDFFF then
                      readStringFrom
                        (Char.ofNat (0x10000 + (unit - 0xD800) * 0x400 + (low - 0xDC00)) :: passed)
                        rest
                    else none
            | _ => none
          else readStringFrom (Char.ofNat unit :: passed) rest
  | passed, '\\' :: letter :: rest =>
      match shortEscape? letter with
      | some char => readStringFrom (char :: passed) rest
      | none => none
  | passed, char :: rest =>
      if char = '\\' ∨ char < ' ' then none else readStringFrom (char :: passed) rest

/-- Read a string after its opening quote. -/
def readString? (chars : List Char) : Option (String × List Char) :=
  readStringFrom [] chars

/-- A character between the quotes of a string. -/
def writeChar (char : Char) : List Char :=
  match char with
  | '"' => ['\\', '"']
  | '\\' => ['\\', '\\']
  | '\x08' => ['\\', 'b']
  | '\x0c' => ['\\', 'f']
  | '\n' => ['\\', 'n']
  | '\r' => ['\\', 'r']
  | '\t' => ['\\', 't']
  | _ =>
      if char < ' ' then
        ['\\', 'u', '0', '0', Nat.digitChar (char.toNat / 16), Nat.digitChar (char.toNat % 16)]
      else [char]

/-- A string with its quotes. -/
def writeString (text : String) : List Char :=
  '"' :: text.toList.flatMap writeChar ++ ['"']

end TableFlow.Json
