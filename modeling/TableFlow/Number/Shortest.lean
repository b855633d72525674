import TableFlow.Number.Basic

/-!
# Shortest decimals

The decimal with the fewest digits that still reads back as a given float. The
reals that round to the float form an interval around it; for one digit, two
digits and so on, the float's two neighbours on the grid of decimals of that
length are tested against the interval, and the first length with a hit wins. Of
two hits the nearer one is taken. All of it is exact arithmetic on naturals.
-/

namespace TableFlow.Number

/-- The decimal `digits * 10 ^ scale`. -/
structure Decimal where
  digits : Nat
  scale : Int
  deriving DecidableEq

/-- How to choose between two decimals at the same distance. -/
inductive Tie where
  | up
  | even

/-- A positive float as a fraction: the float is `value / unit`, and the decimals
that read back as it lie between `low / unit` and `high / unit`, with the ends
included if `closed`. -/
structure Interval where
  low : Nat
  value : Nat
  high : Nat
  unit : Nat
  closed : Bool

/-- The interval around the float `mantissa * 2 ^ exponent`. Below a power of two
floats lie twice as dense, so there the lower half is narrower. -/
def Interval.around (mantissa : Nat) (exponent : Int) : Interval :=
  let below := if mantissa = twoTo 52 then 1 else 2
  let shifted := exponent - 2
  let factor := twoTo shifted.toNat
  { low := (4 * mantissa - below) * factor
    value := 4 * mantissa * factor
    high := (4 * mantissa + 2) * factor
    unit := twoTo (-shifted).toNat
    closed := mantissa % 2 = 0 }

/-- Whether the decimal `digits / 10 ^ places` (or `digits * 10 ^ raise`) lies in
the interval. -/
def Interval.holds (interval : Interval) (digits raise places : Nat) : Bool :=
  let scaled := digits * tenTo raise * interval.unit
  let low := interval.low * tenTo places
  let high := interval.high * tenTo places
  if interval.closed then low ≤ scaled && scaled ≤ high else low < scaled && scaled < high

/-- The number of decimal digits of a natural number. -/
def digitCount (value : Nat) : Nat :=
  (Nat.toDigits 10 value).length

/-- The count of digits before the decimal point of the interval's value; it is
not positive for a value below one tenth. -/
def Interval.magnitude (interval : Interval) : Int :=
  if interval.unit ≤ interval.value then digitCount (interval.value / interval.unit)
  else (digitCount (interval.value * tenTo 400 / interval.unit) : Int) - 400

/-- The decimal of a given scale that reads back, if one of the two neighbours of
the value on that grid does. -/
def Interval.at? (interval : Interval) (tie : Tie) (scale : Int) : Option Decimal :=
  let raise := scale.toNat
  let places := (-scale).toNat
  let numerator := interval.value * tenTo places
  let denominator := interval.unit * tenTo raise
  let below := numerator / denominator
  let rest := numerator % denominator
  match interval.holds below raise places, interval.holds (below + 1) raise places with
  | false, false => none
  | true, false => some ⟨below, scale⟩
  | false, true => some ⟨below + 1, scale⟩
  | true, true =>
      let roundUp :=
        denominator < 2 * rest ||
          (2 * rest == denominator &&
            match tie with
            | .up => true
            | .even => below % 2 == 1)
      some ⟨if roundUp then below + 1 else below, scale⟩

/-- Search the grids from `length` digits on, at most `count` of them. -/
def Interval.search (interval : Interval) (tie : Tie) : Nat → Nat → Option Decimal
  | _, 0 => none
  | length, count + 1 =>
      match interval.at? tie (interval.magnitude - length) with
      | some decimal => some decimal
      | none => interval.search tie (length + 1) count

/-- Move the zeros at the end of the digits into the scale. -/
def stripZeros : Nat → Decimal → Decimal
  | 0, decimal => decimal
  | fuel + 1, decimal =>
      if decimal.digits ≠ 0 ∧ decimal.digits % 10 = 0 then
        stripZeros fuel ⟨decimal.digits / 10, decimal.scale + 1⟩
      else decimal

/-- The shortest decimal of the positive float `mantissa * 2 ^ exponent`;
seventeen digits always suffice. -/
def shortest (tie : Tie) (mantissa : Nat) (exponent : Int) : Decimal :=
  match (Interval.around mantissa exponent).search tie 1 17 with
  | some decimal => stripZeros 17 decimal
  | none => ⟨0, 0⟩

end TableFlow.Number
