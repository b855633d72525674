/-!
# Blank characters

The Unicode property White_Space, and trimming by it. The functions on character
lists are the ones to reason about; those on strings wrap them.
-/

namespace TableFlow.Text

/-- Inclusive ranges of code points, in increasing order. -/
abbrev Ranges := List (Nat × Nat)

/-- Whether a table of ranges holds a code point. -/
def Ranges.holds : Ranges → Nat → Bool
  | [], _ => false
  | (low, high) :: rest, code =>
      if code < low then false
      else if code ≤ high then true
      else Ranges.holds rest code

/-- Code points with the property White_Space. -/
def blankRanges : Ranges :=
  [(0x9, 0xD), (0x20, 0x20), (0x85, 0x85), (0xA0, 0xA0), (0x1680, 0x1680), (0x2000, 0x200A),
   (0x2028, 0x2029), (0x202F, 0x202F), (0x205F, 0x205F), (0x3000, 0x3000)]

/-- Whether a character is white space. -/
def isBlank (char : Char) : Bool :=
  blankRanges.holds char.toNat

/-- Drop the blanks in front. -/
def trimStart (chars : List Char) : List Char :=
  chars.dropWhile isBlank

/-- Drop the blanks at the end. -/
def trimEnd (chars : List Char) : List Char :=
  (chars.reverse.dropWhile isBlank).reverse

/-- Drop the blanks on both sides. -/
def trimChars (chars : List Char) : List Char :=
  trimEnd (trimStart chars)

/-- A text without the blanks around it. -/
def trim (text : String) : String :=
  String.ofList (trimChars text.toList)

/-- Whether a text holds nothing but blanks. -/
def isBlankText (text : String) : Bool :=
  text.toList.all isBlank

end TableFlow.Text
