import TableFlow.Number.Basic
import TableFlow.Number.Shortest

/-!
# Layout of floats

A float is written with its shortest digits, in positional notation when its
magnitude is moderate and with an exponent otherwise. A `Layout` holds the
decisions in which formats differ.
-/

namespace TableFlow.Number

/-- The decisions of a float format. The power of ten of the first digit decides
the notation: positional from `plainFrom` to `plainTo`. -/
structure Layout where
  plainFrom : Int
  plainTo : Int
  plusMark : String
  tie : Tie

/-- Digits with a point after the first `whole` of them; a place without digits
holds a zero. -/
def pointed (digits : List Char) (whole : Int) : String :=
  if whole ≤ 0 then
    String.ofList ('0' :: '.' :: List.replicate (-whole).toNat '0' ++ digits)
  else
    let front := whole.toNat
    let fraction := digits.drop front
    String.ofList
      (digits.take front ++ List.replicate (front - digits.length) '0' ++
        '.' :: (if fraction.isEmpty then ['0'] else fraction))

/-- Digits with the point after the first one, and the power of ten. -/
def Layout.scientific (layout : Layout) (digits : List Char) (power : Int) : String :=
  let mantissa :=
    match digits with
    | [] => "0"
    | [digit] => String.ofList [digit]
    | digit :: rest => String.ofList (digit :: '.' :: rest)
  let mark := if 0 ≤ power then layout.plusMark else ""
  mantissa ++ "e" ++ mark ++ intText power

/-- A positive finite float in a layout. -/
def Layout.positive (layout : Layout) (mantissa : Nat) (exponent : Int) : String :=
  let decimal := shortest layout.tie mantissa exponent
  let digits := Nat.toDigits 10 decimal.digits
  let power := decimal.scale + digits.length - 1
  if layout.plainFrom ≤ power ∧ power ≤ layout.plainTo then pointed digits (power + 1)
  else layout.scientific digits power

/-- A finite float in a layout. -/
def Layout.finite (layout : Layout) (negative : Bool) (mantissa : Nat) (exponent : Int) : String :=
  let sign := if negative then "-" else ""
  if mantissa = 0 then sign ++ "0.0" else sign ++ layout.positive mantissa exponent

/-- Floats as cells show them: positional from one ten-thousandth up to ten
quadrillions. -/
def cellLayout : Layout := { plainFrom := -4, plainTo := 15, plusMark := "", tie := .up }

/-- Floats as documents store them: positional from one hundred-thousandth on, and
an explicit sign on every exponent. -/
def documentLayout : Layout := { plainFrom := -5, plainTo := 15, plusMark := "+", tie := .even }

/-- The text of a float in a cell. -/
def floatText (value : Float) : String :=
  match Binary.ofFloat value with
  | .nan => "NaN"
  | .infinite negative => if negative then "-inf" else "inf"
  | .finite negative mantissa exponent => cellLayout.finite negative mantissa exponent

end TableFlow.Number
