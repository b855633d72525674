import TableFlow.Pipeline.Combine
import TableFlow.Proofs.Table.Grouping

/-!
# Matching rows

A join looks the right rows of a key up in an index.  What it finds can be said without the index:
a left row and a right row match if their key cells are all present and equal pair by pair, and the
rows found for a left row are the right rows that match it, in order.  So the pairs of a join are
those of two nested loops.

Main statement: `Table.joinPairs_eq_nestedLoop`.
-/

namespace TableFlow

theorem fullKey?_eq_some_iff {columns : List Column} {row : Nat} {key : List Cell} :
    fullKey? columns row = some key ↔
      keyAt columns row = key ∧ ∀ cell ∈ key, cell.isNull = false := by
  have full : (keyAt columns row).any Cell.isNull = false ↔
      ∀ cell ∈ keyAt columns row, cell.isNull = false := by
    simp
  rw [fullKey?]
  split
  · rename_i missing
    constructor
    · intro impossible
      cases impossible
    · rintro ⟨rfl, present⟩
      rw [full.2 present] at missing
      cases missing
  · rename_i present
    rw [Option.some.injEq]
    constructor
    · rintro rfl
      exact ⟨rfl, full.1 (Bool.not_eq_true _ ▸ present)⟩
    · exact And.left

/-- The index groups the rows that have a full key. -/
theorem indexRows_eq_groupBy (columns : List Column) (rows : List Nat) :
    indexRows columns rows =
      groupBy columns (rows.filter fun row => (fullKey? columns row).isSome) := by
  rw [indexRows, groupBy, List.foldl_filter]
  congr 1
  funext index row
  cases found : fullKey? columns row with
  | none => rfl
  | some key =>
      rw [(fullKey?_eq_some_iff.1 found).1]
      rfl

theorem rowsUnder_eq (key : List Cell) (index : List (List Cell × List Nat)) :
    rowsUnder key index =
      ((index.find? fun group => sameKey group.1 key).map Prod.snd).getD [] := by
  induction index with
  | nil => rfl
  | cons group rest ih =>
      rw [rowsUnder, List.find?_cons]
      cases sameKey group.1 key <;> simp [ih]

/-- Under a key stand the rows that have it. -/
theorem Grouped.rowsUnder_eq_filter {columns : List Column} {rows : List Nat}
    {index : List (List Cell × List Nat)} (grouped : Grouped columns rows index) (key : List Cell) :
    rowsUnder key index = rows.filter fun row => sameKey (keyAt columns row) key := by
  rw [rowsUnder_eq]
  cases found : index.find? fun group => sameKey group.1 key with
  | none =>
      have none : ∀ row ∈ rows, sameKey (keyAt columns row) key = false := by
        intro row inside
        obtain ⟨group, member, same⟩ := grouped.covers row inside
        have different := List.find?_eq_none.1 found group member
        rw [sameKey_iff] at different same
        rw [← Bool.not_eq_true, sameKey_iff, ← same]
        exact different
      rw [List.filter_eq_nil_iff.2 (by simpa using none)]
      rfl
  | some group =>
      have same : sameKey group.1 key = true := by
        simpa using List.find?_some found
      rw [Option.map_some, Option.getD_some,
        grouped.rows_eq group (List.mem_of_find?_eq_some found)]
      apply List.filter_congr
      intro row inside
      rw [Bool.eq_iff_iff, sameKey_iff, sameKey_iff, ← sameKey_iff.1 same, eq_comm]

namespace Table

section Loops

variable (left right : Table) (keys : List (String × String))

/-- A left row and a right row match if their key cells are present and equal, pair by pair. -/
def Matches (leftRow rightRow : Nat) : Prop :=
  ∀ key ∈ keys, (left.cellAt leftRow key.1).isNull = false ∧
    (right.cellAt rightRow key.2).isNull = false ∧
    (left.cellAt leftRow key.1).Equals (right.cellAt rightRow key.2)

instance (leftRow rightRow : Nat) : Decidable (left.Matches right keys leftRow rightRow) :=
  inferInstanceAs (Decidable (∀ key ∈ keys, _))

/-- The right rows that match a left row, in order. -/
def matchingRows (leftRow : Nat) : List Nat :=
  (List.range right.rowCount).filter fun rightRow => left.Matches right keys leftRow rightRow

/-- The pairs of a join, row by row of the left table: an inner join has the matching pairs, a left
join also each left row without a match, and an anti-join has only those. -/
def nestedLoop : JoinKind → List (Nat × Option Nat)
  | .inner => (List.range left.rowCount).flatMap fun row =>
      (left.matchingRows right keys row).map fun found => (row, some found)
  | .left => (List.range left.rowCount).flatMap fun row =>
      if left.matchingRows right keys row = [] then [(row, none)]
      else (left.matchingRows right keys row).map fun found => (row, some found)
  | .anti =>
      ((List.range left.rowCount).filter fun row => left.matchingRows right keys row = []).map
        fun row => (row, none)

/-- A left join has the pairs of the inner join and one for each left row without a match. -/
theorem length_nestedLoop_left :
    (left.nestedLoop right keys .left).length =
      (left.nestedLoop right keys .inner).length + (left.nestedLoop right keys .anti).length := by
  simp only [nestedLoop]
  induction List.range left.rowCount with
  | nil => rfl
  | cons row rest ih =>
      simp only [List.flatMap_cons, List.length_append, List.filter_cons, ih]
      cases left.matchingRows right keys row with
      | nil =>
          simp
          omega
      | cons found others =>
          simp
          omega

end Loops

variable {left right : Table} {keys : List (String × String)} {leftKeys rightKeys : List Column}
  (onLeft : left.columnsOf (keys.map Prod.fst) = .ok leftKeys)
  (onRight : right.columnsOf (keys.map Prod.snd) = .ok rightKeys)

include onLeft onRight

/-- Rows match exactly if both have full keys, which are the same. -/
theorem matches_iff {leftRow rightRow : Nat} :
    left.Matches right keys leftRow rightRow ↔
      (∀ cell ∈ keyAt leftKeys leftRow, cell.isNull = false) ∧
        (∀ cell ∈ keyAt rightKeys rightRow, cell.isNull = false) ∧
        sameKey (keyAt leftKeys leftRow) (keyAt rightKeys rightRow) = true := by
  rw [keyAt_of_columnsOf onLeft, keyAt_of_columnsOf onRight, List.map_map, List.map_map,
    sameKey_map_iff,
    List.forall_mem_map, List.forall_mem_map]
  simp only [Matches, imp_and, forall_and, Function.comp_apply]

/-- What the index has for a left row are the right rows that match it. -/
theorem rowsUnder_indexRows {leftRow : Nat} {key : List Cell}
    (full : fullKey? leftKeys leftRow = some key) :
    rowsUnder key (indexRows rightKeys (List.range right.rowCount)) =
      left.matchingRows right keys leftRow := by
  obtain ⟨rfl, present⟩ := fullKey?_eq_some_iff.1 full
  rw [indexRows_eq_groupBy, (grouped_groupBy _ _).rowsUnder_eq_filter, List.filter_filter,
    matchingRows]
  apply List.filter_congr
  intro rightRow inside
  rw [sameKey_comm, Bool.eq_iff_iff, decide_eq_true_iff, matches_iff onLeft onRight,
    Bool.and_eq_true,
    Option.isSome_iff_exists]
  simp only [fullKey?_eq_some_iff, exists_eq_left', and_iff_right present]
  exact and_comm

theorem matchingRows_eq_nil {leftRow : Nat} (missing : fullKey? leftKeys leftRow = none) :
    left.matchingRows right keys leftRow = [] := by
  rw [matchingRows, List.filter_eq_nil_iff]
  intro rightRow inside found
  rw [decide_eq_true_iff, matches_iff onLeft onRight] at found
  rw [fullKey?_eq_some_iff.2 ⟨rfl, found.1⟩] at missing
  cases missing

theorem joinPairs_eq_flatMap (kind : JoinKind) :
    joinPairs kind leftKeys rightKeys left.rowCount right.rowCount =
      (List.range left.rowCount).flatMap fun row =>
        kind.pairs row (left.matchingRows right keys row) := by
  rw [joinPairs]
  congr 1
  funext row
  cases full : fullKey? leftKeys row with
  | none => rw [matchingRows_eq_nil onLeft onRight full]
  | some key => exact congrArg (kind.pairs row) (rowsUnder_indexRows onLeft onRight full)

/-- The pairs that a join looks up are those of the two loops. -/
theorem joinPairs_eq_nestedLoop (kind : JoinKind) :
    joinPairs kind leftKeys rightKeys left.rowCount right.rowCount =
      left.nestedLoop right keys kind := by
  rw [joinPairs_eq_flatMap onLeft onRight]
  cases kind with
  | inner =>
      rw [nestedLoop]
      congr 1
      funext row
      cases left.matchingRows right keys row <;> rfl
  | left =>
      rw [nestedLoop]
      congr 1
      funext row
      cases left.matchingRows right keys row <;> rfl
  | anti =>
      rw [nestedLoop]
      induction List.range left.rowCount with
      | nil => rfl
      | cons row rest ih =>
          rw [List.flatMap_cons, List.filter_cons, ih]
          cases found : left.matchingRows right keys row <;> simp [JoinKind.pairs]

end Table

end TableFlow
