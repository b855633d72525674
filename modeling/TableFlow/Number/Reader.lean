import TableFlow.Number.Basic
import TableFlow.Number.Shortest

/-!
# Reading numbers

Integers are an optional sign and digits. Floats are an optional sign and either
a decimal (digits with at most one point, at least one digit, an optional power of
ten) or a name for an infinity or for no number. Reading a float rounds to the
nearest one.
-/

namespace TableFlow.Number

/-- Whether a character is a decimal digit of the Latin alphabet. -/
def isDigit (char : Char) : Bool :=
  '0' ≤ char && char ≤ '9'

def digitValue (char : Char) : Nat :=
  char.toNat - '0'.toNat

/-- The value of a row of digits. -/
def digitsValue (digits : List Char) : Nat :=
  digits.foldl (fun total digit => total * 10 + digitValue digit) 0

/-- A nonempty row of digits. -/
def readNat? (chars : List Char) : Option Nat :=
  if chars.isEmpty || !chars.all isDigit then none else some (digitsValue chars)

/-- Split off a leading sign; the first part tells whether it is a minus. -/
def splitSign : List Char → Bool × List Char
  | '-' :: rest => (true, rest)
  | '+' :: rest => (false, rest)
  | chars => (false, chars)

/-- An integer in decimal notation. -/
def readInt? (chars : List Char) : Option Int :=
  let (negative, digits) := splitSign chars
  (readNat? digits).map fun magnitude => if negative then -(magnitude : Int) else magnitude

/-- A 64-bit integer in decimal notation. -/
def readWord? (chars : List Char) : Option Int64 :=
  (readInt? chars).bind word?

/-- The float nearest to `digits * 10 ^ scale`. Powers far outside the range of
floats are settled without computing them. -/
def nearestFloat (negative : Bool) (digits : Nat) (scale : Int) : Float :=
  let magnitude :=
    if digits = 0 then 0.0
    else
      let power := scale + digitCount digits
      if 400 < power then infinity false
      else if power < -400 then 0.0
      else Float.ofScientific digits (scale < 0) scale.natAbs
  if negative then -magnitude else magnitude

/-- The power of ten after a decimal: nothing, or a mark and an integer. -/
def readPower? : List Char → Option Int
  | [] => some 0
  | mark :: rest => if mark = 'e' ∨ mark = 'E' then readInt? rest else none

/-- A decimal without its sign. -/
def readDecimal? (negative : Bool) (chars : List Char) : Option Float :=
  let whole := chars.takeWhile isDigit
  let afterWhole := chars.dropWhile isDigit
  let (fraction, afterFraction) :=
    match afterWhole with
    | '.' :: rest => (rest.takeWhile isDigit, rest.dropWhile isDigit)
    | rest => ([], rest)
  let digits := whole ++ fraction
  if digits.isEmpty then none
  else
    (readPower? afterFraction).map fun power =>
      nearestFloat negative (digitsValue digits) (power - fraction.length)

/-- A float in decimal notation, or one of the names `inf`, `infinity` and `nan` in
any case. -/
def readFloat? (chars : List Char) : Option Float :=
  let (negative, rest) := splitSign chars
  let word := String.ofList (rest.map Char.toLower)
  if word = "inf" ∨ word = "infinity" then some (infinity negative)
  else if word = "nan" then some notANumber
  else readDecimal? negative rest

end TableFlow.Number
