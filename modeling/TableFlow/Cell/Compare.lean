import TableFlow.Cell.Basic

/-!
# Equality and order of cells

Equality of cells is strict about kinds: the integer one is not the float one. On
floats it goes by value, except that all floats that are no number are equal. It is
an equivalence, so that rows can be grouped by it.

The order is looser: integers and floats compare by value as floats. Cells of other
different kinds do not compare, nor do empty cells and floats that are no number.
-/

namespace TableFlow.Cell

/-- A float as a key: both zeros have one key, and so have all floats that are no
number. -/
def floatKey (value : Float) : UInt64 :=
  if value == 0.0 then 0
  else if value.isNaN then Number.notANumber.toBits
  else value.toBits

/-- Whether two cells are equal. -/
def same : Cell → Cell → Bool
  | .null, .null => true
  | .boolean left, .boolean right => left == right
  | .integer left, .integer right => left == right
  | .float left, .float right => floatKey left == floatKey right
  | .text left, .text right => left == right
  | .timestamp left, .timestamp right => left == right
  | _, _ => false

instance : BEq Cell := ⟨same⟩

/-- What a hasher is fed with. -/
inductive HashPart where
  | tag (index : Nat)
  | length (count : Nat)
  | boolean (value : Bool)
  | integer (value : Int64)
  | bits (value : UInt64)
  | text (value : String)
  deriving DecidableEq

/-- A cell as it is hashed: its kind and its value. -/
def hashParts : Cell → List HashPart
  | .null => [.tag 0]
  | .boolean value => [.tag 1, .boolean value]
  | .integer value => [.tag 2, .integer value]
  | .float value => [.tag 3, .bits (floatKey value)]
  | .text value => [.tag 4, .text value]
  | .timestamp millis => [.tag 5, .integer millis]

/-- The order of two floats, if both are numbers. -/
def compareFloats? (left right : Float) : Option Ordering :=
  if left < right then some .lt
  else if right < left then some .gt
  else if left == right then some .eq
  else none

/-- The order of two cells, if they compare. -/
def compare? : Cell → Cell → Option Ordering
  | .integer left, .integer right => some (compare left.toInt right.toInt)
  | .boolean left, .boolean right => some (compare left right)
  | .text left, .text right => some (compare left right)
  | .timestamp left, .timestamp right => some (compare left.toInt right.toInt)
  | left, right =>
      match left.number?, right.number? with
      | some left, some right => compareFloats? left right
      | _, _ => none

/-- The better of two cells: the second one if it compares as wanted with the first. -/
def better (wanted : Ordering) (best cell : Cell) : Cell :=
  if cell.compare? best == some wanted then cell else best

/-- The best cell so far, when one more cell is met. -/
def keep (wanted : Ordering) : (best : Option Cell) → Cell → Option Cell
  | none, cell => some cell
  | some best, cell => some (better wanted best cell)

end TableFlow.Cell
