/-!
# Integers and floats

Arithmetic on cells is done on unbounded integers and then brought back to a 64-bit integer. `word?`
is the exact way back, which refuses what does not fit; `nearestWord` is the clamping way back.

A finite float is a signed integer times a power of two, which its 64 bits spell out. On that view
the operations with an exact answer (rounding down, dropping the fraction, the remainder of a
division) are integer arithmetic.
-/

namespace TableFlow.Number

/-- The least integer of 64 bits. -/
def leastWord : Int := -9223372036854775808

/-- The greatest integer of 64 bits. -/
def greatestWord : Int := 9223372036854775807

/-- The 64-bit integer that equals an integer, if there is one. -/
def word? (value : Int) : Option Int64 :=
  if leastWord ≤ value ∧ value ≤ greatestWord then some (Int64.ofInt value) else none

/-- The 64-bit integer nearest to an integer. -/
def nearestWord (value : Int) : Int64 :=
  if value < leastWord then Int64.ofInt leastWord
  else if greatestWord < value then Int64.ofInt greatestWord
  else Int64.ofInt value

/-- An integer in decimal notation. -/
def intText (value : Int) : String :=
  match value with
  | .ofNat magnitude => String.ofList (Nat.toDigits 10 magnitude)
  | .negSucc magnitude => String.ofList ('-' :: Nat.toDigits 10 (magnitude + 1))

/-- A natural number in decimal notation. -/
def natText (value : Nat) : String :=
  String.ofList (Nat.toDigits 10 value)

def twoTo (power : Nat) : Nat :=
  Nat.pow 2 power

def tenTo (power : Nat) : Nat :=
  Nat.pow 10 power

/-- What the bits of a float stand for. A finite float is `mantissa * 2 ^ exponent`,
negated if `negative`. -/
inductive Binary where
  | nan
  | infinite (negative : Bool)
  | finite (negative : Bool) (mantissa : Nat) (exponent : Int)

/-- Read the sign, exponent and fraction fields of a float. -/
def Binary.ofFloat (value : Float) : Binary :=
  let bits := value.toBits.toNat
  let negative := decide (twoTo 63 ≤ bits)
  let biased : Nat := bits / twoTo 52 % twoTo 11
  let fraction : Nat := bits % twoTo 52
  if biased = 2047 then
    if fraction = 0 then .infinite negative else .nan
  else if biased = 0 then .finite negative fraction (-1074)
  else .finite negative (fraction + twoTo 52) ((biased : Int) - 1075)

def notANumber : Float := Float.ofBits 0x7FF8000000000000

/-- The infinities. -/
def infinity (negative : Bool) : Float :=
  Float.ofBits (if negative then 0xFFF0000000000000 else 0x7FF0000000000000)

def signedZero (negative : Bool) : Float :=
  Float.ofBits (if negative then 0x8000000000000000 else 0)

/-- The float `mantissa * 2 ^ exponent` for a product that a float can hold. -/
def ofBinary (negative : Bool) (mantissa : Nat) (exponent : Int) : Float :=
  if mantissa = 0 then signedZero negative
  else
    let target := max (exponent + (mantissa.log2 : Int) - 52) (-1074)
    let scaled :=
      if exponent ≤ target then mantissa / twoTo (target - exponent).toNat
      else mantissa * twoTo (exponent - target).toNat
    let magnitude :=
      if scaled < twoTo 52 then scaled
      else (target + 1075).toNat * twoTo 52 + (scaled - twoTo 52)
    Float.ofBits (UInt64.ofNat (magnitude + if negative then twoTo 63 else 0))

/-- The greatest integer not above `mantissa * 2 ^ exponent`, negated if `negative`. -/
def floorBinary (negative : Bool) (mantissa : Nat) (exponent : Int) : Int :=
  let signed : Int := if negative then -(mantissa : Int) else mantissa
  if 0 ≤ exponent then signed * twoTo exponent.toNat
  else signed / twoTo (-exponent).toNat

/-- The greatest integer not above a finite float. -/
def floor? (value : Float) : Option Int :=
  match Binary.ofFloat value with
  | .finite negative mantissa exponent => some (floorBinary negative mantissa exponent)
  | _ => none

/-- The integer part of a finite float, rounding toward zero. -/
def truncate? (value : Float) : Option Int :=
  match Binary.ofFloat value with
  | .finite negative mantissa exponent =>
      let magnitude := floorBinary false mantissa exponent
      some (if negative then -magnitude else magnitude)
  | _ => none

/-- The remainder of a division that rounds its quotient toward zero. It has the
sign of the dividend and is exact. -/
def remainder (dividend divisor : Float) : Float :=
  match Binary.ofFloat dividend, Binary.ofFloat divisor with
  | .finite negative mantissa exponent, .finite _ divisorMantissa divisorExponent =>
      if divisorMantissa = 0 then notANumber
      else
        let common := min exponent divisorExponent
        let left := mantissa * twoTo (exponent - common).toNat
        let right := divisorMantissa * twoTo (divisorExponent - common).toNat
        ofBinary negative (left % right) common
  | .finite _ _ _, .infinite _ => dividend
  | _, _ => notANumber

/-- Whether a float is a number and not an infinity. -/
def isFinite (value : Float) : Bool :=
  match Binary.ofFloat value with
  | .finite _ _ _ => true
  | _ => false

/-- The sum of floats from left to right; it starts at the negative zero, which adds
nothing. -/
def sumFloats (values : List Float) : Float :=
  values.foldl (· + ·) (-0.0)

end TableFlow.Number
