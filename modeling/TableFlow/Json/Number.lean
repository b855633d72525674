import TableFlow.Json.Basic
import TableFlow.Number.Reader

/-!
# Numbers in documents

A number is an optional minus, digits without a needless leading zero, and then
possibly a fraction and a power of ten. Without those two it is an integer, as long
as it fits in 64 bits (signed, or unsigned if it has no minus); everything else is
a float.

The float is computed from the leading digits that fit in 64 bits, taken as one
integer, and a single power of ten, so it is rounded at each of these steps. A
number too large for a float is refused; one too small becomes zero.
-/

namespace TableFlow.Json

open TableFlow.Number

/-- The greatest integer of 64 bits without a sign. -/
def greatestSignificand : Nat := 18446744073709551615

/-- Append digits to a significand as long as it fits in 64 bits; also tells how many
digits were taken. -/
def takeSignificand : Nat → List Char → Nat × Nat
  | significand, [] => (significand, 0)
  | significand, digit :: rest =>
      let longer := significand * 10 + digitValue digit
      if longer ≤ greatestSignificand then
        let (result, taken) := takeSignificand longer rest
        (result, taken + 1)
      else (significand, 0)

/-- A power of ten as a float, up to the largest one there is. -/
def powerOfTen (power : Nat) : Float :=
  Float.ofScientific 1 false power

/-- Divide by a power of ten, in steps of the largest one that a float holds. -/
def scaleDown (value : Float) (power : Nat) : Float :=
  if power ≤ 308 then value / powerOfTen power
  else if value == 0.0 then value
  else scaleDown (value / powerOfTen 308) (power - 308)
termination_by power

/-- Multiply by a power of ten; none if the result is too large. -/
def scale? (value : Float) (power : Int) : Option Float :=
  if power < 0 then some (scaleDown value power.natAbs)
  else if power ≤ 308 then
    let scaled := value * powerOfTen power.natAbs
    if isFinite scaled then some scaled else none
  else if value == 0.0 then some value
  else none

/-- A number without fraction and power of ten. -/
def wholeNumber? (negative : Bool) (digits : List Char) : Option Json :=
  let magnitude := digitsValue digits
  if greatestSignificand < magnitude then
    let (significand, taken) := takeSignificand 0 digits
    (scale? (Float.ofNat significand) (digits.length - taken)).map fun value =>
      .float (if negative then -value else value)
  else if negative then
    if magnitude = 0 ∨ -leastWord < magnitude then some (.float (-Float.ofNat magnitude))
    else some (.integer (-magnitude))
  else some (.integer magnitude)

/-- A number with a fraction or a power of ten. -/
def fractionalNumber? (negative : Bool) (whole fraction : List Char) (power : Int) :
    Option Json :=
  let (front, takenWhole) := takeSignificand 0 whole
  let (significand, takenFraction) := takeSignificand front fraction
  let dropped : Int := whole.length - takenWhole
  (scale? (Float.ofNat significand) (dropped - takenFraction + power)).map fun value =>
    .float (if negative then -value else value)

/-- Digits after a mark, at least one. -/
def readDigits? (chars : List Char) : Option (List Char × List Char) :=
  let digits := chars.takeWhile isDigit
  if digits.isEmpty then none else some (digits, chars.dropWhile isDigit)

/-- The power of ten behind a number, if one is written. -/
def readExponent? : List Char → Option (Option Int × List Char)
  | [] => some (none, [])
  | char :: rest =>
      if char = 'e' ∨ char = 'E' then
        let (negative, afterSign) := splitSign rest
        (readDigits? afterSign).map fun (digits, rest) =>
          let power : Int := digitsValue digits
          (some (if negative then -power else power), rest)
      else some (none, char :: rest)

/-- Read a number without its sign. -/
def readMagnitude? (negative : Bool) (chars : List Char) : Option (Json × List Char) :=
  match readDigits? chars with
  | none => none
  | some (whole, afterWhole) =>
      if whole.head? = some '0' ∧ whole.length ≠ 1 then none
      else
        match afterWhole with
        | '.' :: afterPoint =>
            match readDigits? afterPoint with
            | none => none
            | some (fraction, afterFraction) =>
                match readExponent? afterFraction with
                | none => none
                | some (power, rest) =>
                    (fractionalNumber? negative whole fraction (power.getD 0)).map (·, rest)
        | _ =>
            match readExponent? afterWhole with
            | none => none
            | some (some power, rest) =>
                (fractionalNumber? negative whole [] power).map (·, rest)
            | some (none, rest) => (wholeNumber? negative whole).map (·, rest)

/-- Read a number at the front of a text. -/
def readNumber? : List Char → Option (Json × List Char)
  | '-' :: rest => readMagnitude? true rest
  | chars => readMagnitude? false chars

end TableFlow.Json
