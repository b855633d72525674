/-!
# The stable sort

A sort learns about its items from the answers to its questions only.  So it is a tree: at every
inner node it asks which of two items is less, and the answer decides how it goes on.  It may find
that the answers contradict each other, and then it gives up.  The answers come from a comparison
that may keep a state from one question to the next.

Up to 20 items are sorted by insertion.  More of them are cut into stretches, of which those in
order already are left as they are, and the stretches are merged.  Up to 64 items are sorted stretch
by stretch; for more of them stretches that are not in order are put together first and sorted by
partition.

Up to 32 items of a stretch are sorted in two halves, which are merged from both ends.  The two ends
must meet, and the sort gives up if they do not.
-/

namespace TableFlow

/-- A computation that asks whether one item is less than another. -/
inductive Comparing (α β : Type) where
  | done (value : β)
  | giveUp
  | ask (left right : α) (next : Bool → Comparing α β)

namespace Comparing

variable {α β γ σ : Type}

def bind (first : Comparing α β) (rest : β → Comparing α γ) : Comparing α γ :=
  match first with
  | .done value => rest value
  | .giveUp => .giveUp
  | .ask left right next => .ask left right fun isLess => (next isLess).bind rest

instance : Monad (Comparing α) where
  pure := .done
  bind := .bind

/-- The question whether one item is less than another. -/
def less (left right : α) : Comparing α Bool :=
  .ask left right .done

/-- What is computed, and the last state of the comparison.  Nothing is computed by a computation
that gives up. -/
def run (compare : α → α → σ → Ordering × σ) : Comparing α β → σ → Option β × σ
  | .done value, state => (some value, state)
  | .giveUp, state => (none, state)
  | .ask left right next, state =>
      let answer := compare left right state
      (next (answer.1 == .lt)).run compare answer.2

end Comparing

namespace Sorting

open Comparing

variable {α : Type}

/-- Insert an item into a sorted list that is written last first. -/
def insertBack (item : α) : List α → Comparing α (List α)
  | [] => .done [item]
  | last :: sorted =>
      .ask item last fun isLess =>
        if isLess then do
          let rest ← insertBack item sorted
          return last :: rest
        else .done (item :: last :: sorted)

/-- Insert items one after the other into a sorted list that is written last first. -/
def insertAll : (sorted items : List α) → Comparing α (List α)
  | sorted, [] => .done sorted.reverse
  | sorted, item :: rest => do
      let next ← insertBack item sorted
      insertAll next rest

/-- A merge under way: what is left of two lists, and what has been taken, last first. -/
structure Front (α : Type) where
  first : List α
  second : List α
  taken : List α

namespace Front

def takeFirst (front : Front α) : Front α :=
  match front.first with
  | [] => front
  | item :: rest => { front with first := rest, taken := item :: front.taken }

def takeSecond (front : Front α) : Front α :=
  match front.second with
  | [] => front
  | item :: rest => { front with second := rest, taken := item :: front.taken }

/-- Take the next item, which is that of the first list unless the other one has to come before
it. -/
def advance (secondFirst : α → α → Comparing α Bool) (front : Front α) :
    Comparing α (Front α) :=
  match front.first, front.second with
  | first :: _, second :: _ => do
      if ← secondFirst first second then return front.takeSecond else return front.takeFirst
  | _, _ => .giveUp

end Front

/-- Merge some items from the front and as many from the back. -/
def approach : (steps : Nat) → (front back : Front α) → Comparing α (Front α × Front α)
  | 0, front, back => .done (front, back)
  | steps + 1, front, back => do
      let front ← front.advance fun first second => less second first
      let back ← back.advance less
      approach steps front back

/-- Take the item between front and back, if there is one: the lists have `left` and `right` items,
and the second one may have one more than the first. -/
def takeMiddle (left right : Nat) (front back : Front α) : Front α :=
  if (left + right) % 2 = 0 then front
  else if left < front.first.length + back.second.length then front.takeFirst
  else front.takeSecond

/-- Put together what was merged from the front and from the back. -/
def meet (left right : Nat) (front back : Front α) : Comparing α (List α) :=
  let middle := takeMiddle left right front back
  if middle.first.length + back.second.length = left ∧
      middle.second.length + back.first.length = right then
    .done (middle.taken.reverse ++ back.taken)
  else .giveUp

/-- Merge the sorted halves of a list. -/
def mergeHalves (left right : List α) : Comparing α (List α) := do
  let (front, back) ← approach left.length ⟨left, right, []⟩ ⟨right.reverse, left.reverse, []⟩
  meet left.length right.length front back

/-- Two items in order. -/
def sortPair (first second : α) : Comparing α (α × α) := do
  if ← less second first then return (second, first) else return (first, second)

/-- Four items in order, by five questions. -/
def sortFour (first second third fourth : α) : Comparing α (List α) := do
  let left ← sortPair first second
  let right ← sortPair third fourth
  let rightLeast ← less right.1 left.1
  let leftGreatest ← less right.2 left.2
  let least := if rightLeast then right.1 else left.1
  let greatest := if leftGreatest then left.2 else right.2
  let inner ← sortPair (if rightLeast then left.1 else if leftGreatest then right.1 else left.2)
    (if leftGreatest then right.2 else if rightLeast then left.2 else right.1)
  return [least, inner.1, inner.2, greatest]

/-- The first four items in order, and the other ones. -/
def sortFirstFour : List α → Comparing α (List α × List α)
  | first :: second :: third :: fourth :: rest => do
      let sorted ← sortFour first second third fourth
      return (sorted, rest)
  | items => .done ([], items)

/-- The first eight items in order, and the other ones. -/
def sortFirstEight (items : List α) : Comparing α (List α × List α) := do
  let (left, rest) ← sortFirstFour items
  let (right, rest) ← sortFirstFour rest
  let sorted ← mergeHalves left right
  return (sorted, rest)

/-- Sort the beginning of a half of `length` items all in all. -/
def sortBeginning (length : Nat) (half : List α) : Comparing α (List α × List α) :=
  if 16 ≤ length then sortFirstEight half
  else if 8 ≤ length then sortFirstFour half
  else .done ([], half)

/-- Sort the two halves of a list by insertion and merge them. -/
def sortSmall (items : List α) : Comparing α (List α) := do
  let (left, leftRest) ← sortBeginning items.length (items.take (items.length / 2))
  let (right, rightRest) ← sortBeginning items.length (items.drop (items.length / 2))
  let left ← insertAll left.reverse leftRest
  let right ← insertAll right.reverse rightRest
  mergeHalves left right

/-! ## Sorting by partition -/

/-- The position of the item in the middle of three. -/
def median (items : List α) (first second third : Fin items.length) :
    Comparing α (Fin items.length) := do
  let beforeSecond ← less (items.get first) (items.get second)
  let beforeThird ← less (items.get first) (items.get third)
  if beforeSecond = beforeThird then
    let isLess ← less (items.get second) (items.get third)
    return if isLess = beforeSecond then second else third
  else return first

/-- The position of a pivot for a section of a list: the middle one of three items, each of which is
a pivot of a smaller section if the section is large. -/
def pivotOf (items : List α) (start length : Nat) (positive : 0 < length)
    (inside : start + length ≤ items.length) : Comparing α (Fin items.length) :=
  if large : 64 ≤ length then do
    let first ← pivotOf items start (length / 8) (by omega) (by omega)
    let second ← pivotOf items (start + 4 * (length / 8)) (length / 8) (by omega) (by omega)
    let third ← pivotOf items (start + 7 * (length / 8)) (length / 8) (by omega) (by omega)
    median items first second third
  else
    median items ⟨start, by omega⟩ ⟨start + 4 * (length / 8), by omega⟩
      ⟨start + 7 * (length / 8), by omega⟩
termination_by length

/-- Divide items between two lists that are written last first. -/
def divide (goesLeft : α → Comparing α Bool) :
    List α → (left right : List α) → Comparing α (List α × List α)
  | [], left, right => .done (left, right)
  | item :: rest, left, right => do
      if ← goesLeft item then divide goesLeft rest (item :: left) right
      else divide goesLeft rest left (item :: right)

/-- Divide a list by a question about its items, which is not asked about the pivot. -/
def partition (items : List α) (pivot : Fin items.length) (pivotLeft : Bool)
    (goesLeft : α → Comparing α Bool) : Comparing α (List α × List α) := do
  let (left, right) ← divide goesLeft (items.take pivot) [] []
  let (left, right) ← divide goesLeft (items.drop (pivot + 1))
    (if pivotLeft then items.get pivot :: left else left)
    (if pivotLeft then right else items.get pivot :: right)
  return (left.reverse, right.reverse)

/-- Whether the pivot is known to be least: no item is less than the `ancestor`. -/
def isLeast (ancestor : Option α) (pivot : α) : Comparing α Bool :=
  match ancestor with
  | none => .done false
  | some ancestor => do
      let isLess ← less ancestor pivot
      return !isLess

/-- The items that are less than the pivot, and the other ones. -/
def splitLess (ancestor : Option α) (items : List α) (position : Fin items.length) :
    Comparing α (List α × List α) := do
  if ← isLeast ancestor (items.get position) then return ([], items)
  else partition items position false (less · (items.get position))

/-- The items that are not greater than the pivot, and the other ones. -/
def splitNotGreater (items : List α) (position : Fin items.length) :
    Comparing α (List α × List α) :=
  partition items position true fun item => do
    let isLess ← less (items.get position) item
    return !isLess

/-- Sort a list by partition.  After `limit` partitions what is left is sorted by `fallback`. -/
def sortByPartition (fallback : List α → Comparing α (List α)) :
    (limit : Nat) → (ancestor : Option α) → (items : List α) → Comparing α (List α)
  | 0, _, items => if items.length ≤ 32 then sortSmall items else fallback items
  | limit + 1, ancestor, items =>
      if small : items.length ≤ 32 then sortSmall items
      else do
        let position ← pivotOf items 0 items.length (by omega) (by omega)
        let (left, right) ← splitLess ancestor items position
        if left.isEmpty then
          -- no item is less than the pivot: those that equal it are in place
          let (equals, greater) ← splitNotGreater items position
          let sorted ← sortByPartition fallback limit none greater
          return equals ++ sorted
        else
          let right ← sortByPartition fallback limit (some (items.get position)) right
          let left ← sortByPartition fallback limit ancestor left
          return left ++ right

/-! ## Sorting by stretches -/

/-- A stretch of a list, which may be in order already. -/
structure Stretch (α : Type) where
  items : List α
  sorted : Bool

/-- How many items are in order, those already counted included; in the opposite order and strictly
so if the items are `descending`. -/
def countOrdered (descending : Bool) : (last : α) → List α → (counted : Nat) → Comparing α Nat
  | _, [], counted => .done counted
  | last, item :: rest, counted =>
      .ask item last fun isLess =>
        if isLess = descending then countOrdered descending item rest (counted + 1)
        else .done counted

/-- The beginning of a list that is in order, turned round if it descends. -/
def orderedBeginning : List α → Comparing α (List α)
  | first :: second :: rest =>
      .ask second first fun descending => do
        let count ← countOrdered descending second rest 2
        let beginning := (first :: second :: rest).take count
        return if descending then beginning.reverse else beginning
  | items => .done items

/-- The first stretch of a list.  It is the beginning that is in order if that is at least `good`
long; else a short beginning is sorted if the sort is `eager`, and left as it is if not. -/
def firstStretch (good : Nat) (eager : Bool) (items : List α) : Comparing α (Stretch α) := do
  let ordered ← (if good ≤ items.length then orderedBeginning items else .done [])
  if good ≤ ordered.length then return ⟨ordered, true⟩
  else if eager then
    let sorted ← sortSmall (items.take 32)
    return ⟨sorted, true⟩
  else return ⟨items.take good, false⟩

/-- Merge two sorted lists, and give the items last first. -/
def mergeOnto (secondFirst : α → α → Comparing α Bool) :
    (first second taken : List α) → Comparing α (List α)
  | first :: firsts, second :: seconds, taken => do
      if ← secondFirst first second then
        mergeOnto secondFirst (first :: firsts) seconds (second :: taken)
      else mergeOnto secondFirst firsts (second :: seconds) (first :: taken)
  | firsts, seconds, taken => .done (seconds.reverse ++ (firsts.reverse ++ taken))

/-- Merge two sorted lists, from the back if the second one is shorter. -/
def merge (left right : List α) : Comparing α (List α) :=
  if left.length ≤ right.length then do
    let merged ← mergeOnto (fun left right => less right left) left right []
    return merged.reverse
  else mergeOnto less right.reverse left.reverse []

/-- The items of a stretch in order. -/
def Stretch.inOrder (sort : List α → Comparing α (List α)) (stretch : Stretch α) :
    Comparing α (List α) :=
  if stretch.sorted then .done stretch.items else sort stretch.items

/-- Two stretches as one.  Two that are not in order are only put together if there is `room` to
sort them later. -/
def Stretch.join (sort : List α → Comparing α (List α)) (room : Nat) (left right : Stretch α) :
    Comparing α (Stretch α) :=
  if left.items.length + right.items.length ≤ room ∧ !left.sorted ∧ !right.sorted then
    return ⟨left.items ++ right.items, false⟩
  else do
    let left ← left.inOrder sort
    let right ← right.inOrder sort
    let merged ← merge left right
    return ⟨merged, true⟩

/-- Join the last stretch with those before it, as long as they lie at least as deep as `depth`. -/
def joinDeeper (join : Stretch α → Stretch α → Comparing α (Stretch α)) (depth : Nat) :
    List (Stretch α × Nat) → Stretch α → Comparing α (List (Stretch α × Nat) × Stretch α)
  | [], last => .done ([], last)
  | (before, itsDepth) :: deeper, last => do
      if depth ≤ itsDepth then
        let joined ← join before last
        joinDeeper join depth deeper joined
      else return ((before, itsDepth) :: deeper, last)

/-- The length from which on a stretch that is in order is kept: half of a short list, about the
square root of a long one. -/
def goodLength (length : Nat) : Nat :=
  if length ≤ 4096 then min (length - length / 2) 64
  else
    let shift := (1 + (length ||| 1).log2) / 2
    (1 <<< shift + length >>> shift) / 2

/-- How deep the boundary between two neighbouring stretches lies in a balanced tree over `length`
items: the number of bits that the middles of the two have in common. -/
def boundaryDepth (length start middle stop : Nat) : Nat :=
  let scale := (1 <<< 62 + length - 1) / length
  63 - ((scale * (start + middle)) ^^^ (scale * (middle + stop))).log2

/-- Join the stretches of a list of `length` items.  The stretches before the last one are kept with
their depths, and what is left of the list begins at `position`. -/
def joinStretches (join : Stretch α → Stretch α → Comparing α (Stretch α)) (eager : Bool)
    (length : Nat) (before : List (Stretch α × Nat)) (last : Stretch α) (position : Nat) :
    List α → Comparing α (Stretch α)
  | [] => do
      let (_, whole) ← joinDeeper join 0 before last
      return whole
  | item :: rest => do
      let next ← firstStretch (goodLength length) eager (item :: rest)
      let stop := position + next.items.length
      let depth := boundaryDepth length (position - last.items.length) position stop
      let (before, joined) ← joinDeeper join depth before last
      joinStretches join eager length ((joined, depth) :: before) next stop
        (rest.drop (next.items.length - 1))
termination_by rest => rest.length

def sortByStretches (sort : List α → Comparing α (List α)) (room : Nat) (eager : Bool)
    (items : List α) : Comparing α (List α) := do
  let first ← firstStretch (goodLength items.length) eager items
  let whole ← joinStretches (Stretch.join sort room) eager items.length [] first first.items.length
    (items.drop first.items.length)
  whole.inOrder sort

/-- How many items can be sorted by partition at once, in a list of some length. -/
def roomFor (length : Nat) : Nat :=
  max (length - length / 2) (min length 1000000)

/-- Sort a list by partition, or eagerly by its stretches if the partitions are too uneven. -/
def sortPart (room : Nat) (items : List α) : Comparing α (List α) :=
  sortByPartition (sortByStretches .done room true) (2 * (items.length ||| 1).log2) none items

def stableSort (items : List α) : Comparing α (List α) :=
  if items.length ≤ 20 then insertAll [] items
  else
    let room := roomFor items.length
    sortByStretches (sortPart room) room (items.length ≤ 64) items

end Sorting

/-- Sort the positions of some items.  The sort sees the items through the comparison only. -/
def sortPositions {α σ : Type} (compare : α → α → σ → Ordering × σ) {count : Nat}
    (item : Fin count → α) (state : σ) : Option (List (Fin count)) × σ :=
  (Sorting.stableSort (List.finRange count)).run
    (fun left right => compare (item left) (item right)) state

/-- Sort a list by a comparison that may keep a state.  Nothing comes out if the sort gives up. -/
def sortBy {α σ : Type} (compare : α → α → σ → Ordering × σ) (items : List α) (state : σ) :
    Option (List α) × σ :=
  let sorted := sortPositions compare items.get state
  (sorted.1.map fun positions => positions.map items.get, sorted.2)

/-- A comparison that can fail, for a sort that goes on: what does not compare counts as equal, and
the first two such items are noted. -/
def noting {α : Type} (compare? : α → α → Option Ordering) (left right : α)
    (noted : Option (α × α)) : Ordering × Option (α × α) :=
  match compare? left right with
  | some ordering => (ordering, noted)
  | none => (.eq, noted.or (some (left, right)))

end TableFlow
