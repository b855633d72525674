import TableFlow.Proofs.Table.Refinement
import TableFlow.Proofs.Table.Taking
import TableFlow.Proofs.Transform.Functions
import TableFlow.Proofs.Transform.Settling

/-!
# Ranks count what comes ahead

Ranks are given on a walk through the sorted rows of a group that looks at the row before only.
Since the rows are sorted, all rows that come ahead of a row have been passed when the walk arrives
there, and a row that is not equal to the one before it has no other ones behind it.  So the rank of
a row is one more than the number of rows of its group that come ahead of it, or of different values
among them.  Said like this it depends on the cells of the group and not on the order of its rows.

Main statement: `Rank.apply_counts`.
-/

namespace TableFlow

namespace Cell

/-- On cells other than floats the test for equality decides identity. -/
theorem beq_iff_eq_of_noFloat {left right : Cell} (noFloat : left.kind? ≠ some .float) :
    (left == right) = true ↔ left = right := by
  change left.same right = true ↔ left = right
  cases left <;> cases right <;> simp_all [same, kind?]

/-- Without floats every value is listed once. -/
theorem eraseDups_lists {cells : List Cell} (noFloat : ∀ cell ∈ cells, cell.kind? ≠ some .float) :
    cells.eraseDups.Nodup ∧ ∀ cell, cell ∈ cells.eraseDups ↔ cell ∈ cells := by
  -- What is left when a value is struck out is shorter, but it is no tail of the list.
  induction size : cells.length using Nat.strong_induction_on generalizing cells with
  | _ length ih =>
      cases cells with
      | nil => simp
      | cons first rest =>
          rw [List.forall_mem_cons] at noFloat
          have others {cell : Cell} :
              cell ∈ (rest.filter fun cell => !cell == first) ↔ cell ∈ rest ∧ cell ≠ first := by
            rw [List.mem_filter, Bool.not_eq_true', and_congr_right_iff]
            intro member
            rw [← Bool.not_eq_true, beq_iff_eq_of_noFloat (noFloat.2 cell member)]
          have shorter : (rest.filter fun cell => !cell == first).length < length := by
            rw [← size, List.length_cons]
            exact Nat.lt_succ_of_le (List.length_filter_le ..)
          obtain ⟨nodup, members⟩ :=
            ih _ shorter (fun cell member => noFloat.2 cell (others.1 member).1) rfl
          rw [List.eraseDups_cons, List.nodup_cons, members, others]
          refine ⟨⟨by simp, nodup⟩, ?_⟩
          intro cell
          rw [List.mem_cons, List.mem_cons, members, others]
          by_cases same : cell = first <;> simp [same]

def kindNumber (cell : Cell) : Int :=
  cell.kind?.elim 0 fun kind => (kind.ctorIdx : Int) + 1

theorem kindNumber_eq_iff {left right : Cell} :
    left.kindNumber = right.kindNumber ↔ left.kind? = right.kind? := by
  rw [kindNumber, kindNumber]
  cases left.kind? with
  | none =>
      cases right.kind? with
      | none => decide
      | some right => cases right <;> decide
  | some left =>
      cases right.kind? with
      | none => cases left <;> decide
      | some right => cases left <;> cases right <;> decide

end Cell

namespace Table

variable {table : Table} {keys : List String} {order : List Nat}

/-- When the rows of a table are put in another order every group keeps its rows. -/
theorem perm_map_getD_group (shuffle : order.Perm (List.range table.rowCount))
    {groups shuffledGroups : List (List Nat)} {group shuffledGroup : List Nat}
    (grouped : table.groupRows keys = .ok groups) (member : group ∈ groups)
    (groupedShuffled : (table.takeRows order).groupRows keys = .ok shuffledGroups)
    (memberShuffled : shuffledGroup ∈ shuffledGroups) {index : Nat} (bound : index < order.length)
    (inside : index ∈ shuffledGroup) (insideBefore : order[index] ∈ group) :
    (shuffledGroup.map (order.getD · 0)).Perm group := by
  have renumbered : shuffledGroup.map (order.getD · 0) =
      order.filter fun other => table.AgreeOn keys order[index] other :=
    calc shuffledGroup.map (order.getD · 0)
      _ = ((List.range order.length).filter fun other =>
            table.AgreeOn keys order[index] (order.getD other 0)).map (order.getD · 0) := by
          rw [group_eq_filter groupedShuffled memberShuffled inside]
          apply congrArg
          apply List.filter_congr
          intro other inRange
          have boundOther : other < order.length := List.mem_range.1 inRange
          simp [AgreeOn, cellAt_takeRows bound, cellAt_takeRows boundOther, boundOther]
      _ = ((List.range order.length).map (order.getD · 0)).filter fun other =>
            table.AgreeOn keys order[index] other := by
          rw [List.filter_map]
          rfl
      _ = order.filter fun other => table.AgreeOn keys order[index] other := by
          rw [map_getD_range]
  rw [renumbered, group_eq_filter grouped member insideBefore]
  exact shuffle.filter _

/-- When the rows of a table are put in another order every row has the cells of its group around
it. -/
theorem exists_group_of_shuffled (shuffle : order.Perm (List.range table.rowCount))
    {groups shuffledGroups : List (List Nat)} {shuffledGroup : List Nat}
    (grouped : table.groupRows keys = .ok groups)
    (groupedShuffled : (table.takeRows order).groupRows keys = .ok shuffledGroups)
    (memberShuffled : shuffledGroup ∈ shuffledGroups) {index : Nat} (bound : index < order.length)
    (inside : index ∈ shuffledGroup) :
    ∃ group ∈ groups, order[index] ∈ group ∧
      ∀ name, (shuffledGroup.map fun other => (table.takeRows order).cellAt other name).Perm
        (group.map fun other => table.cellAt other name) := by
  have boundBefore : order[index] < table.rowCount :=
    List.mem_range.1 (shuffle.subset (List.getElem_mem bound))
  obtain ⟨place, group, found, insideBefore⟩ := exists_group_of_lt grouped boundBefore
  have member := List.mem_of_getElem? found
  refine ⟨group, member, insideBefore, ?_⟩
  intro name
  have sameCells : shuffledGroup.map (fun other => (table.takeRows order).cellAt other name) =
      (shuffledGroup.map (order.getD · 0)).map fun other => table.cellAt other name := by
    rw [List.map_map]
    apply List.map_congr_left
    intro other inGroup
    have boundOther : other < order.length :=
      (isGroupedBy_of_groupRows groupedShuffled).bounded shuffledGroup memberShuffled other inGroup
    simp [cellAt_takeRows boundOther, boundOther]
  rw [sameCells]
  exact (perm_map_getD_group shuffle grouped member groupedShuffled memberShuffled bound inside
    insideBefore).map _

end Table

/-! ## What comes ahead -/

/-- How a cell compares with one that it comes ahead of. -/
def RankOrder.ahead : RankOrder → Ordering
  | .ascending => .lt
  | .descending => .gt

theorem RankOrder.ahead_ne_eq (order : RankOrder) : order.ahead ≠ .eq := by
  cases order <;> decide

/-- Those of some cells that come ahead of a cell. -/
def RankOrder.cellsAhead (order : RankOrder) (cells : List Cell) (cell : Cell) : List Cell :=
  cells.filter fun other => other.compare? cell == some order.ahead

theorem RankOrder.mem_cellsAhead {order : RankOrder} {cells : List Cell} {cell other : Cell} :
    other ∈ order.cellsAhead cells cell ↔
      other ∈ cells ∧ other.compare? cell = some order.ahead := by
  simp [cellsAhead]

/-- Empty cells do not come ahead. -/
theorem RankOrder.cellsAhead_filled (order : RankOrder) (cells : List Cell) (cell : Cell) :
    order.cellsAhead (Cell.filled cells) cell = order.cellsAhead cells cell := by
  rw [cellsAhead, Cell.filled, List.filter_filter, cellsAhead]
  apply List.filter_congr
  intro other _
  cases other <;> simp [Cell.isNull]

/-- How many cells, or how many different values, some cells are. -/
def RankMethod.count (method : RankMethod) (cells : List Cell) : Nat :=
  match method with
  | .standard => cells.length
  | .dense => cells.eraseDups.length

@[simp] theorem RankMethod.count_nil (method : RankMethod) : method.count [] = 0 := by
  cases method <;> rfl

/-- The number of cells or values does not depend on the order of the cells. -/
theorem RankMethod.count_eq_of_perm (method : RankMethod) {left right : List Cell}
    (noFloat : ∀ cell ∈ left, cell.kind? ≠ some .float) (perm : left.Perm right) :
    method.count left = method.count right := by
  cases method with
  | standard => exact perm.length_eq
  | dense =>
      have listsLeft := Cell.eraseDups_lists noFloat
      have listsRight := Cell.eraseDups_lists fun cell member =>
        noFloat cell (perm.symm.subset member)
      have same : left.eraseDups.Perm right.eraseDups := by
        rw [List.perm_ext_iff_of_nodup listsLeft.1 listsRight.1]
        intro cell
        rw [listsLeft.2, listsRight.2, perm.mem_iff]
      exact same.length_eq

/-- What comes ahead of a cell counts the same in any order. -/
theorem RankMethod.count_cellsAhead_eq_of_perm (method : RankMethod) (order : RankOrder)
    {left right : List Cell} (noFloat : ∀ cell ∈ left, cell.kind? ≠ some .float)
    (perm : left.Perm right) (cell : Cell) :
    method.count (order.cellsAhead left cell) = method.count (order.cellsAhead right cell) := by
  apply method.count_eq_of_perm _ (perm.filter _)
  intro other ahead
  exact noFloat other (List.mem_of_mem_filter ahead)

/-- The rank of a cell among some cells: one more than the number of those, or of their values, that
come ahead of it.  An empty cell has none. -/
def Rank.standing (rank : Rank) (cells : List Cell) (cell : Cell) : Cell :=
  if cell.isNull then .null
  else .integer (Int64.ofNat (rank.method.count (rank.order.cellsAhead cells cell) + 1))

namespace Rank

theorem standing_eq_of_perm (rank : Rank) {left right : List Cell}
    (noFloat : ∀ cell ∈ left, cell.kind? ≠ some .float) (perm : left.Perm right) (cell : Cell) :
    rank.standing left cell = rank.standing right cell := by
  rw [standing, standing, rank.method.count_cellsAhead_eq_of_perm rank.order noFloat perm]

section Sorted

variable {order : RankOrder} {kind : Kind} {before after : List Cell} {last cell : Cell}

/-- Cells of one kind of which none comes ahead of an earlier one. -/
structure IsSorted (order : RankOrder) (kind : Kind) (cells : List Cell) : Prop where
  ofKind : ∀ cell ∈ cells, cell.kind? = some kind
  ordered : cells.Pairwise fun earlier later => later.compare? earlier ≠ some order.ahead

theorem compare?_self_ne (order : RankOrder) (cell : Cell) :
    cell.compare? cell ≠ some order.ahead := by
  intro compared
  exact Cell.compare?_ne_of_eq order.ahead_ne_eq compared compared

/-- Of sorted cells only earlier ones come ahead of a cell. -/
theorem IsSorted.cellsAhead_eq_before (sorted : IsSorted order kind (before ++ cell :: after)) :
    order.cellsAhead (before ++ cell :: after) cell = order.cellsAhead before cell := by
  have ordered := sorted.ordered
  rw [List.pairwise_append, List.pairwise_cons] at ordered
  have none : order.cellsAhead (cell :: after) cell = [] := by
    rw [RankOrder.cellsAhead, List.filter_eq_nil_iff, List.forall_mem_cons]
    refine ⟨by simpa using compare?_self_ne order cell, ?_⟩
    intro later member
    simpa using ordered.2.1.1 later member
  rw [RankOrder.cellsAhead, List.filter_append, ← RankOrder.cellsAhead, ← RankOrder.cellsAhead,
    none, List.append_nil]

/-- A cell that is not equal to the one before it has all earlier ones ahead of it. -/
theorem IsSorted.cellsAhead_of_apart (plain : kind ≠ .float)
    (sorted : IsSorted order kind (before ++ last :: cell :: after))
    (apart : last.compare? cell ≠ some .eq) :
    order.cellsAhead (before ++ last :: cell :: after) cell = before ++ [last] := by
  have ofKind := sorted.ofKind
  have ordered := sorted.ordered
  simp only [List.forall_mem_append, List.forall_mem_cons] at ofKind
  rw [List.pairwise_append, List.pairwise_cons, List.forall_mem_cons] at ordered
  have lastAhead : last.compare? cell = some order.ahead := by
    by_contra notAhead
    have equal := Cell.eq_of_compare?_ne order.ahead_ne_eq plain ofKind.2.1 ofKind.2.2.1 notAhead
      ordered.2.1.1.1
    have notFloat : cell.kind? ≠ some .float := by simpa [ofKind.2.2.1] using plain
    have filled : cell ≠ .null := by
      rintro rfl
      cases ofKind.2.2.1
    rw [equal] at apart
    exact apart ((Cell.compare?_eq_some_eq_iff notFloat notFloat).2 ⟨rfl, filled⟩)
  have allAhead : ∀ other ∈ before ++ [last], other.compare? cell = some order.ahead := by
    rw [List.forall_mem_append, List.forall_mem_singleton]
    refine ⟨?_, lastAhead⟩
    intro other member
    by_contra notAhead
    exact Cell.compare?_ne_trans order.ahead_ne_eq plain ofKind.2.1 (ofKind.1 other member)
      ofKind.2.2.1
      (ordered.2.2 other member last List.mem_cons_self) notAhead lastAhead
  rw [List.append_cons] at sorted ⊢
  rw [sorted.cellsAhead_eq_before, RankOrder.cellsAhead, List.filter_eq_self]
  intro other member
  rw [allAhead other member, beq_self_eq_true]

/-- A cell that is not equal to the one before it has one more value ahead of it. -/
theorem IsSorted.length_eraseDups_of_apart (plain : kind ≠ .float)
    (sorted : IsSorted order kind (before ++ last :: cell :: after))
    (apart : last.compare? cell ≠ some .eq) :
    (order.cellsAhead (before ++ last :: cell :: after) cell).eraseDups.length =
      (order.cellsAhead (before ++ last :: cell :: after) last).eraseDups.length + 1 := by
  have noFloat : ∀ other ∈ before ++ last :: cell :: after, other.kind? ≠ some .float := by
    intro other member
    simpa [sorted.ofKind other member] using plain
  rw [sorted.cellsAhead_of_apart plain apart, sorted.cellsAhead_eq_before]
  have ofKind := sorted.ofKind
  have ordered := sorted.ordered
  simp only [List.forall_mem_append, List.forall_mem_cons] at ofKind noFloat
  rw [List.pairwise_append] at ordered
  have noFloatPassed : ∀ other ∈ before ++ [last], other.kind? ≠ some .float := by
    rw [List.forall_mem_append, List.forall_mem_singleton]
    exact ⟨noFloat.1, noFloat.2.1⟩
  have noFloatAhead : ∀ other ∈ order.cellsAhead before last, other.kind? ≠ some .float :=
    fun other member => noFloat.1 other (List.mem_of_mem_filter member)
  obtain ⟨nodupPassed, passed⟩ := Cell.eraseDups_lists noFloatPassed
  obtain ⟨nodupAhead, ahead⟩ := Cell.eraseDups_lists noFloatAhead
  have same :
      (before ++ [last]).eraseDups.Perm (last :: (order.cellsAhead before last).eraseDups) := by
    have notItself : last ∉ (order.cellsAhead before last).eraseDups := by
      rw [ahead, RankOrder.mem_cellsAhead]
      exact fun itself => compare?_self_ne order last itself.2
    rw [List.perm_ext_iff_of_nodup nodupPassed (List.nodup_cons.2 ⟨notItself, nodupAhead⟩)]
    intro other
    rw [passed, List.mem_cons, ahead, RankOrder.mem_cellsAhead, List.mem_append, List.mem_singleton]
    constructor
    · rintro (member | rfl)
      · by_cases isAhead : other.compare? last = some order.ahead
        · exact .inr ⟨member, isAhead⟩
        · exact .inl (Cell.eq_of_compare?_ne order.ahead_ne_eq plain (ofKind.1 other member)
            ofKind.2.1 isAhead (ordered.2.2 other member last List.mem_cons_self))
      · exact .inl rfl
    · rintro (rfl | ⟨member, -⟩)
      · exact .inr rfl
      · exact .inl member
  exact same.length_eq

end Sorted

section Walk

variable {column : Column} {order : RankOrder} {kind : Kind}

/-- The rank of a row among sorted rows. -/
def rankAmong (method : RankMethod) (order : RankOrder) (column : Column) (rows : List Nat)
    (row : Nat) : Nat :=
  method.count (order.cellsAhead (rows.map column.cellAt) (column.cellAt row)) + 1

/-- No row comes ahead of the first one. -/
theorem rankAmong_first (method : RankMethod) {row : Nat} {rest : List Nat}
    (sorted : IsSorted order kind ((row :: rest).map column.cellAt)) :
    rankAmong method order column (row :: rest) row = 1 := by
  have split : IsSorted order kind ([] ++ column.cellAt row :: rest.map column.cellAt) := sorted
  have none := split.cellsAhead_eq_before
  rw [List.nil_append] at none
  rw [rankAmong, List.map_cons, none]
  exact congrArg (· + 1) method.count_nil

/-- A row that is equal to the one before it has its rank. -/
theorem rankAmong_of_tied (method : RankMethod) (plain : kind ≠ .float) {before rest : List Nat}
    {last row : Nat}
    (sorted : IsSorted order kind ((before ++ last :: row :: rest).map column.cellAt))
    (tied : (column.cellAt last).compare? (column.cellAt row) = some .eq) :
    rankAmong method order column (before ++ last :: row :: rest) row =
      rankAmong method order column (before ++ last :: row :: rest) last := by
  have noFloat (other : Nat) (member : other ∈ before ++ last :: row :: rest) :
      (column.cellAt other).kind? ≠ some .float := by
    simpa [sorted.ofKind _ (List.mem_map_of_mem member)] using plain
  obtain ⟨equal, -⟩ := (Cell.compare?_eq_some_eq_iff (noFloat last (by simp))
    (noFloat row (by simp))).1 tied
  rw [rankAmong, rankAmong, equal]

/-- A row that is not equal to the one before it has the next position, or the next rank. -/
theorem rankAmong_of_apart (plain : kind ≠ .float) {before rest : List Nat} {last row : Nat}
    (sorted : IsSorted order kind ((before ++ last :: row :: rest).map column.cellAt))
    (apart : (column.cellAt last).compare? (column.cellAt row) ≠ some .eq) :
    rankAmong .standard order column (before ++ last :: row :: rest) row = before.length + 1 + 1 ∧
      rankAmong .dense order column (before ++ last :: row :: rest) row =
        rankAmong .dense order column (before ++ last :: row :: rest) last + 1 := by
  simp only [List.map_append, List.map_cons] at sorted
  simp only [rankAmong, RankMethod.count, List.map_append, List.map_cons]
  constructor
  · rw [sorted.cellsAhead_of_apart plain apart, List.length_append, List.length_map,
      List.length_singleton]
  · rw [sorted.length_eraseDups_of_apart plain apart]

/-- The walk gives each row that lies ahead its rank if the last row passed has its own. -/
theorem number_eq_map (method : RankMethod) (plain : kind ≠ .float) (passed rest : List Nat)
    (sorted : IsSorted order kind ((passed ++ rest).map column.cellAt)) :
    number method column passed.length
        (passed.getLast?.map fun row => (row, rankAmong method order column (passed ++ rest) row))
          rest =
      rest.map fun row => (row, rankAmong method order column (passed ++ rest) row) := by
  induction rest generalizing passed with
  | nil => rfl
  | cons row rest ih =>
      rw [List.append_cons] at sorted
      have next := ih (passed ++ [row]) sorted
      simp only [List.append_assoc, List.singleton_append, List.length_append,
        List.length_singleton, List.getLast?_concat, Option.map_some] at next sorted
      rw [List.map_cons, ← next]
      rcases List.eq_nil_or_concat' passed with rfl | ⟨before, last, rfl⟩
      · rw [List.nil_append] at sorted
        simp only [number, List.getLast?_nil, Option.map_none, List.nil_append,
          rankAmong_first method sorted]
      · simp only [List.append_assoc, List.singleton_append] at sorted
        simp only [number, List.getLast?_concat, Option.map_some, List.append_assoc,
          List.singleton_append, List.length_append, List.length_singleton]
        by_cases tied : (column.cellAt last).compare? (column.cellAt row) = some .eq
        · simp only [tied, beq_self_eq_true, if_true, rankAmong_of_tied method plain sorted tied]
        · have apart := rankAmong_of_apart plain sorted tied
          simp only [beq_iff_eq, tied, if_false]
          cases method with
          | standard => simp only [apart.1]
          | dense => simp only [apart.2]

end Walk

/-! ## The ranks of a group -/

section Group

variable {column : Column} {order : RankOrder} {kind : Kind} {rows : List Nat} {left right : Nat}

theorem settledRows_eq_lt_iff :
    settledRows order column left right = .lt ↔
      (column.cellAt left).compare? (column.cellAt right) = some order.ahead := by
  rw [settledRows, settled, compareRows?]
  cases (column.cellAt left).compare? (column.cellAt right) with
  | none => simp
  | some ordering => cases order <;> cases ordering <;> simp [RankOrder.ahead, RankOrder.direct]

theorem failsOn_compareRows? (pair : Nat × Nat) :
    failsOn (compareRows? order column) pair =
      !((column.cellAt pair.1).compare? (column.cellAt pair.2)).isSome := by
  rw [failsOn, compareRows?, Option.isNone_map, Option.not_isSome]

theorem mem_rankedRows {row : Nat} :
    row ∈ rankedRows column rows ↔ row ∈ rows ∧ column.cellAt row ≠ .null := by
  rw [rankedRows, List.mem_filter, Bool.not_eq_true', Cell.isNull_eq_false_iff]

theorem exists_ofKind_ne_float (noFloat : ∀ row ∈ rows, (column.cellAt row).kind? ≠ some .float)
    (one : ∃ kind, ∀ row ∈ rows, (column.cellAt row).OfKind kind) :
    ∃ kind, kind ≠ .float ∧ ∀ row ∈ rows, (column.cellAt row).OfKind kind := by
  have oneOfCells : ∃ kind, ∀ cell ∈ rows.map column.cellAt, cell.OfKind kind := by simpa using one
  simpa using Cell.exists_ofKind_of_noFloat oneOfCells (by simpa using noFloat)

/-- The rows that are ranked hold the cells that are not empty. -/
theorem map_cellAt_rankedRows (column : Column) (rows : List Nat) :
    (rankedRows column rows).map column.cellAt = Cell.filled (rows.map column.cellAt) := by
  rw [Cell.filled, List.filter_map]
  rfl

/-- The rank of a row among the sorted rows of a group is its rank in the group. -/
theorem integer_rankAmong (rank : Rank) {sorted : List Nat}
    (perm : sorted.Perm (rankedRows column rows))
    (noFloat : ∀ row ∈ rows, (column.cellAt row).kind? ≠ some .float) {row : Nat}
    (member : row ∈ sorted) :
    .integer (Int64.ofNat (rankAmong rank.method rank.order column sorted row)) =
      rank.standing (rows.map column.cellAt) (column.cellAt row) := by
  have filled := Cell.isNull_eq_false_iff.2 (mem_rankedRows.1 (perm.subset member)).2
  have noFloatSorted : ∀ cell ∈ sorted.map column.cellAt, cell.kind? ≠ some .float := by
    rw [List.forall_mem_map]
    exact fun other inSorted => noFloat other (mem_rankedRows.1 (perm.subset inSorted)).1
  have sameCells : (sorted.map column.cellAt).Perm (Cell.filled (rows.map column.cellAt)) := by
    rw [← map_cellAt_rankedRows]
    exact perm.map column.cellAt
  have sameCount := rank.method.count_cellsAhead_eq_of_perm rank.order noFloatSorted sameCells
    (column.cellAt row)
  rw [RankOrder.cellsAhead_filled] at sameCount
  rw [standing, filled, rankAmong, sameCount]
  rfl

/-- Rows with cells of one kind are sorted, and every two of them compare. -/
theorem exists_sorted?_of_ofKind (order : RankOrder) (plain : kind ≠ .float)
    (ofKind : ∀ row ∈ rows, (column.cellAt row).kind? = some kind) :
    ∃ sorted, sorted? (settledRows order column) rows = some sorted ∧
      IsSorted order kind (sorted.map column.cellAt) ∧ apartRows? order column rows = none := by
  have noFloat : ∀ row ∈ rows, (column.cellAt row).kind? ≠ some .float := by
    intro row member
    simpa [ofKind row member] using plain
  have filled : ∀ row ∈ rows, column.cellAt row ≠ .null := by
    intro row member empty
    have ofRow := ofKind row member
    rw [empty] at ofRow
    cases ofRow
  have alike : ∀ left ∈ rows, ∀ right ∈ rows,
      (column.cellAt left).kind? = (column.cellAt right).kind? := by
    intro left inLeft right inRight
    rw [ofKind left inLeft, ofKind right inRight]
  have sortable : Cell.Sortable (rows.map column.cellAt) := by
    apply Cell.sortable_of_alike <;> simpa only [List.forall_mem_map]
  have preorders : PreordersOn (settledRows order column) rows :=
    preordersOn_settledRows_iff.2 sortable
  obtain ⟨sorted, found, ordered⟩ := preorders.exists_sorted?
  refine ⟨sorted, found, ⟨?_, ?_⟩, ?_⟩
  · rw [List.forall_mem_map]
    exact fun row member => ofKind row ((perm_of_sorted? found).subset member)
  · rw [List.pairwise_map]
    exact ordered.imp fun notBefore => by rwa [ne_eq, settledRows_eq_lt_iff] at notBefore
  · rw [apartRows?, List.find?_eq_none]
    intro pair asked
    obtain ⟨inFirst, inSecond⟩ := mem_of_mem_questions asked
    rw [failsOn_compareRows?, Bool.not_eq_true', Bool.not_eq_false,
      Cell.isSome_compare?_iff_kind (noFloat pair.1 inFirst) (noFloat pair.2 inSecond)]
    exact ⟨alike pair.1 inFirst pair.2 inSecond, filled pair.1 inFirst⟩

/-- A group with cells of one kind is ranked by what comes ahead of each of them. -/
theorem exists_rankGroup (rank : Rank) (plain : kind ≠ .float)
    (ofKind : ∀ row ∈ rows, (column.cellAt row).OfKind kind) :
    ∃ sorted : List Nat, sorted.Perm (rankedRows column rows) ∧
      rank.rankGroup column rows = .ok (sorted.map fun row =>
        (row, rank.standing (rows.map column.cellAt) (column.cellAt row))) := by
  have ofRanked : ∀ row ∈ rankedRows column rows, (column.cellAt row).kind? = some kind := by
    intro row member
    obtain ⟨inRows, filled⟩ := mem_rankedRows.1 member
    exact (ofKind row inRows).kind?_eq filled
  obtain ⟨sorted, found, isSorted, together⟩ := exists_sorted?_of_ofKind rank.order plain ofRanked
  have perm := perm_of_sorted? found
  have numbered := number_eq_map rank.method plain [] sorted isSorted
  rw [List.length_nil, List.getLast?_nil, Option.map_none, List.nil_append] at numbered
  refine ⟨sorted, perm, ?_⟩
  rw [rankGroup_eq_rankSettling, rankSettling, found, Option.elim_some, ranksOf, together,
    Option.elim_none, numbered, List.map_map, Except.ok.injEq]
  apply List.map_congr_left
  intro row member
  rw [← integer_rankAmong rank perm (fun row inRows => (ofKind row inRows).kind?_ne_float plain)
    member]
  rfl

/-- Every row of a group finds its rank, and an empty one finds none. -/
theorem lookup_rankGroup {rank : Rank} (plain : kind ≠ .float)
    (ofKind : ∀ row ∈ rows, (column.cellAt row).OfKind kind) {entries : List (Nat × Cell)}
    (ranked : rank.rankGroup column rows = .ok entries) {row : Nat} (inRows : row ∈ rows) :
    (entries.lookup row).getD .null =
      rank.standing (rows.map column.cellAt) (column.cellAt row) := by
  obtain ⟨sorted, perm, rankedBy⟩ := exists_rankGroup rank plain ofKind
  rw [ranked, Except.ok.injEq] at rankedBy
  rw [rankedBy, lookup_map_pair]
  split
  · rw [Option.getD_some]
  · rename_i absent
    rw [perm.mem_iff, mem_rankedRows, not_and, not_not] at absent
    rw [standing, absent inRows]
    rfl

/-- What becomes of a group: the sort contradicts itself, or two rows were found that do not
compare, or all rows asked about compare and the group is ranked. -/
theorem rankGroup_cases (rank : Rank) (column : Column) (rows : List Nat) :
    (sorted? (settledRows rank.order column) (rankedRows column rows) = none ∧
      rank.rankGroup column rows = .error (.crashed .contradictoryOrder)) ∨
    (∃ left ∈ rankedRows column rows, ∃ right ∈ rankedRows column rows,
      (column.cellAt left).compare? (column.cellAt right) = none ∧
        rank.rankGroup column rows =
          .error (.incomparable column.name (column.cellAt left) (column.cellAt right))) ∨
    ((∀ pair ∈ questions (settledRows rank.order column) (rankedRows column rows),
        ((column.cellAt pair.1).compare? (column.cellAt pair.2)).isSome = true) ∧
      ∃ entries, rank.rankGroup column rows = .ok entries) := by
  rw [rankGroup_eq_rankSettling, rankSettling]
  cases sorted? (settledRows rank.order column) (rankedRows column rows) with
  | none => exact .inl ⟨rfl, rfl⟩
  | some sorted =>
      rw [Option.elim_some, ranksOf]
      cases apart : apartRows? rank.order column (rankedRows column rows) with
      | some pair =>
          obtain ⟨inFirst, inSecond⟩ := mem_of_mem_questions (List.mem_of_find?_eq_some apart)
          have fails := List.find?_some apart
          rw [failsOn_compareRows?, Option.not_isSome, Option.isNone_iff_eq_none] at fails
          exact .inr (.inl ⟨pair.1, inFirst, pair.2, inSecond, fails, rfl⟩)
      | none =>
          rw [apartRows?, List.find?_eq_none] at apart
          refine .inr (.inr ⟨?_, _, rfl⟩)
          intro pair asked
          simpa only [failsOn_compareRows?, Bool.not_eq_true', Bool.not_eq_false]
            using apart pair asked

/-- A group that was ranked has cells of one kind. -/
theorem exists_ofKind_of_rankGroup {rank : Rank} {entries : List (Nat × Cell)}
    (noFloat : ∀ row ∈ rows, (column.cellAt row).kind? ≠ some .float)
    (ranked : rank.rankGroup column rows = .ok entries) :
    ∃ kind, ∀ row ∈ rows, (column.cellAt row).OfKind kind := by
  have compared : ∀ pair ∈ questions (settledRows rank.order column) (rankedRows column rows),
      ((column.cellAt pair.1).compare? (column.cellAt pair.2)).isSome = true := by
    rcases rank.rankGroup_cases column rows
      with ⟨-, crashed⟩ | ⟨_, _, _, _, -, failed⟩ | ⟨compared, -⟩
    · rw [ranked] at crashed
      cases crashed
    · rw [ranked] at failed
      cases failed
    · exact compared
  have within (value : Int) : PreordersOn (settledRows rank.order column)
      ((rankedRows column rows).filter fun row => (column.cellAt row).kindNumber = value) := by
    apply preordersOn_settledRows_iff.2
    apply Cell.sortable_of_alike <;> simp only [List.forall_mem_map, List.mem_filter,
      decide_eq_true_eq]
    · exact fun row member => (mem_rankedRows.1 member.1).2
    · exact fun row member => noFloat row (mem_rankedRows.1 member.1).1
    · exact fun left inLeft right inRight =>
        Cell.kindNumber_eq_iff.1 (inLeft.2.trans inRight.2.symm)
  have alike := key_eq_of_questions within fun pair asked => by
    obtain ⟨inFirst, inSecond⟩ := mem_of_mem_questions asked
    have sameKind := compared pair asked
    rw [Cell.isSome_compare?_iff_kind (noFloat _ (mem_rankedRows.1 inFirst).1)
      (noFloat _ (mem_rankedRows.1 inSecond).1)] at sameKind
    exact Cell.kindNumber_eq_iff.2 sameKind.1
  have one : ∃ kind, ∀ cell ∈ rows.map column.cellAt, cell.OfKind kind := by
    rw [Cell.exists_ofKind_iff]
    simp only [List.forall_mem_map]
    intro left inLeft right inRight filledLeft filledRight
    exact Cell.kindNumber_eq_iff.1 (alike left (mem_rankedRows.2 ⟨inLeft, filledLeft⟩) right
      (mem_rankedRows.2 ⟨inRight, filledRight⟩))
  simpa using one

/-- A group that cannot be ranked has cells of two kinds, which are reported unless the sort
contradicts itself; for that it takes more than 20 cells. -/
theorem exists_of_rankGroup_error {rank : Rank} {error : StepError}
    (noFloat : ∀ row ∈ rows, (column.cellAt row).kind? ≠ some .float)
    (failed : rank.rankGroup column rows = .error error) :
    (∃ left ∈ rows, ∃ right ∈ rows, ∃ expected actual,
      (column.cellAt left).kind? = some expected ∧ (column.cellAt right).kind? = some actual ∧
        expected ≠ actual ∧ error = .mismatch column.name (.kind expected) actual) ∨
    ((¬ ∃ kind, ∀ row ∈ rows, (column.cellAt row).OfKind kind) ∧
      20 < (Cell.filled (rows.map column.cellAt)).length ∧
      error = .crashed .contradictoryOrder) := by
  rcases rank.rankGroup_cases column rows with
    ⟨unsorted, crashed⟩ | ⟨left, inLeft, right, inRight, apart, mismatched⟩ | ⟨-, entries, ranked⟩
  · right
    rw [failed, Except.error.injEq] at crashed
    refine ⟨?_, ?_, crashed⟩
    · intro one
      obtain ⟨kind, plain, ofKind⟩ := exists_ofKind_ne_float noFloat one
      obtain ⟨sorted, -, ranked⟩ := exists_rankGroup rank plain ofKind
      rw [failed] at ranked
      cases ranked
    · rw [← map_cellAt_rankedRows, List.length_map, ← Nat.not_le]
      intro short
      obtain ⟨sorted, found⟩ := exists_sorted?_of_short (settledRows rank.order column) short
      rw [unsorted] at found
      cases found
  · left
    rw [failed, Except.error.injEq] at mismatched
    obtain ⟨inRowsLeft, filledLeft⟩ := mem_rankedRows.1 inLeft
    obtain ⟨inRowsRight, filledRight⟩ := mem_rankedRows.1 inRight
    obtain ⟨leftKind, ofLeft⟩ := Cell.exists_kind? filledLeft
    obtain ⟨rightKind, ofRight⟩ := Cell.exists_kind? filledRight
    refine ⟨left, inRowsLeft, right, inRowsRight, leftKind, rightKind, ofLeft, ofRight, ?_, ?_⟩
    · -- Cells of one kind do compare.
      intro sameKind
      have compares : ((column.cellAt left).compare? (column.cellAt right)).isSome = true := by
        rw [Cell.isSome_compare?_iff_kind (noFloat left inRowsLeft) (noFloat right inRowsRight),
          ofLeft, ofRight, sameKind]
        exact ⟨rfl, filledLeft⟩
      rw [apart] at compares
      cases compares
    · rw [mismatched, StepError.incomparable, ofLeft, ofRight]
      rfl
  · rw [failed] at ranked
    cases ranked

end Group

/-! ## The ranks of a table -/

section Tables

variable {rank : Rank} {table output : Table} {groups : List (List Nat)} {group : List Nat}
  {row : Nat}
variable (wellFormed : table.WellFormed) (known : table.hasColumn rank.column = true)
variable (noFloat : ¬ table.HoldsFloat rank.column)
variable (grouped : table.groupRows rank.groups = .ok groups)

include wellFormed known noFloat grouped

/-- A table is ranked exactly if the cells of every group have one kind. -/
theorem exists_apply_iff :
    (∃ output, rank.apply table = .ok output) ↔
      ∀ group ∈ groups, ∃ kind, ∀ row ∈ group, (table.cellAt row rank.column).OfKind kind := by
  obtain ⟨column, found⟩ := Table.exists_column known
  have plain := Table.kind?_ne_float noFloat
  simp only [Table.cellAt_eq_of_column found] at plain ⊢
  rw [rank.apply_eq found, wellFormed.exists_placeGroups_iff grouped]
  apply forall₂_congr
  intro group _
  constructor
  · rintro ⟨entries, ranked⟩
    exact exists_ofKind_of_rankGroup (fun row _ => plain row) ranked
  · intro one
    obtain ⟨kind, plainKind, ofKind⟩ := exists_ofKind_ne_float (fun row _ => plain row) one
    obtain ⟨sorted, -, ranked⟩ := exists_rankGroup rank plainKind ofKind
    exact ⟨_, ranked⟩

/-- A table that cannot be ranked has cells of two kinds in a group. -/
theorem exists_of_apply_error {error : StepError} (failed : rank.apply table = .error error) :
    ∃ group ∈ groups,
      (∃ left ∈ group, ∃ right ∈ group, ∃ expected actual,
        (table.cellAt left rank.column).kind? = some expected ∧
          (table.cellAt right rank.column).kind? = some actual ∧
          expected ≠ actual ∧ error = .mismatch rank.column (.kind expected) actual) ∨
      ((¬ ∃ kind, ∀ row ∈ group, (table.cellAt row rank.column).OfKind kind) ∧
        20 < (Cell.filled (group.map fun row => table.cellAt row rank.column)).length ∧
        error = .crashed .contradictoryOrder) := by
  obtain ⟨column, found⟩ := Table.exists_column known
  have plain := Table.kind?_ne_float noFloat
  simp only [Table.cellAt_eq_of_column found] at plain ⊢
  rw [rank.apply_eq found] at failed
  obtain ⟨group, member, failedThere⟩ := wellFormed.exists_of_placeGroups_error grouped failed
  rw [← Table.name_of_column found]
  exact ⟨group, member, exists_of_rankGroup_error (fun row _ => plain row) failedThere⟩

/-- A row of a ranked table has its rank among the cells of its group. -/
theorem cellAt_apply (applied : rank.apply table = .ok output) (member : group ∈ groups)
    (inside : row ∈ group) :
    output.cellAt row rank.outputColumn =
      rank.standing (group.map fun other => table.cellAt other rank.column)
        (table.cellAt row rank.column) := by
  have one := (exists_apply_iff wellFormed known noFloat grouped).1 ⟨output, applied⟩ group member
  obtain ⟨column, found⟩ := Table.exists_column known
  have plain := Table.kind?_ne_float noFloat
  simp only [Table.cellAt_eq_of_column found] at one plain ⊢
  rw [rank.apply_eq found] at applied
  obtain ⟨entries, ranked, cell⟩ :=
    (rowWise_rankGroup rank).cellAt_of_placeGroups wellFormed grouped applied member inside
  obtain ⟨kind, plainKind, ofKind⟩ := exists_ofKind_ne_float (fun row _ => plain row) one
  rw [cell]
  exact lookup_rankGroup plainKind ofKind ranked inside

/-- The rows of a ranked table keep their ranks when they are put in another order. -/
theorem exists_apply_shuffled (applied : rank.apply table = .ok output) {order : List Nat}
    (shuffle : order.Perm (List.range table.rowCount)) :
    ∃ shuffled, rank.apply (table.takeRows order) = .ok shuffled ∧
      ∀ index row, order[index]? = some row →
        shuffled.cellAt index rank.outputColumn = output.cellAt row rank.outputColumn := by
  obtain ⟨column, found⟩ := Table.exists_column known
  obtain ⟨columns, foundKeys, -⟩ := Table.exists_of_groupRows grouped
  have knownShuffled : (table.takeRows order).hasColumn rank.column = true := by
    rw [Table.hasColumn_takeRows, known]
  have noFloatShuffled := Table.not_holdsFloat_takeRows found noFloat order
  have groupedShuffled := Table.groupRows_of_columnsOf (Table.columnsOf_takeRows order foundKeys)
  have classes := Table.isGroupedBy_of_groupRows groupedShuffled
  have one := (exists_apply_iff wellFormed known noFloat grouped).1 ⟨output, applied⟩
  obtain ⟨shuffled, appliedShuffled⟩ :
      ∃ shuffled, rank.apply (table.takeRows order) = .ok shuffled := by
    rw [exists_apply_iff (wellFormed.takeRows order) knownShuffled noFloatShuffled groupedShuffled]
    intro shuffledGroup memberShuffled
    have inside := Table.headD_mem_group groupedShuffled memberShuffled
    obtain ⟨group, member, -, sameCells⟩ := Table.exists_group_of_shuffled shuffle grouped
      groupedShuffled memberShuffled (classes.bounded _ memberShuffled _ inside) inside
    obtain ⟨kind, ofKind⟩ := one group member
    refine ⟨kind, ?_⟩
    intro index inGroup
    obtain ⟨row, inRows, cell⟩ := List.mem_map.1
      ((sameCells rank.column).subset (List.mem_map_of_mem inGroup))
    rw [← cell]
    exact ofKind row inRows
  refine ⟨shuffled, appliedShuffled, ?_⟩
  intro index row atIndex
  obtain ⟨bound, rfl⟩ := List.getElem?_eq_some_iff.1 atIndex
  obtain ⟨place, shuffledGroup, atPlace, inside⟩ := Table.exists_group_of_lt groupedShuffled bound
  have memberShuffled := List.mem_of_getElem? atPlace
  obtain ⟨group, member, insideBefore, sameCells⟩ :=
    Table.exists_group_of_shuffled shuffle grouped groupedShuffled memberShuffled bound inside
  rw [cellAt_apply wellFormed known noFloat grouped applied member insideBefore,
    cellAt_apply (wellFormed.takeRows order) knownShuffled noFloatShuffled groupedShuffled
      appliedShuffled memberShuffled inside, Table.cellAt_takeRows bound]
  have plain :
      ∀ cell ∈ shuffledGroup.map fun other => (table.takeRows order).cellAt other rank.column,
      cell.kind? ≠ some .float := by
    rw [List.forall_mem_map]
    exact fun other _ => Table.kind?_ne_float noFloatShuffled other
  exact rank.standing_eq_of_perm plain (sameCells rank.column) _

end Tables

/-- Ranks are given exactly if the cells of every group have one kind.  Otherwise two kinds of a
group are reported, or the sort of a group of two kinds and more than 20 values contradicts itself.
The rank of a row is its rank among the cells of its group, and it keeps it when the rows of the
table are put in another order. -/
theorem apply_counts (rank : Rank) (table : Table) (wellFormed : table.WellFormed)
    (known : table.hasColumn rank.column = true) (noFloat : ¬ table.HoldsFloat rank.column) :
    (∀ error, table.groupRows rank.groups = .error error → rank.apply table = .error error) ∧
    ∀ groups, table.groupRows rank.groups = .ok groups →
      table.IsGroupedBy rank.groups groups ∧
      ((∃ output, rank.apply table = .ok output) ↔
        ∀ group ∈ groups, ∃ kind, ∀ row ∈ group, (table.cellAt row rank.column).OfKind kind) ∧
      (∀ error, rank.apply table = .error error → ∃ group ∈ groups,
        (∃ left ∈ group, ∃ right ∈ group, ∃ expected actual,
          (table.cellAt left rank.column).kind? = some expected ∧
            (table.cellAt right rank.column).kind? = some actual ∧
            expected ≠ actual ∧ error = .mismatch rank.column (.kind expected) actual) ∨
        ((¬ ∃ kind, ∀ row ∈ group, (table.cellAt row rank.column).OfKind kind) ∧
          20 < (Cell.filled (group.map fun row => table.cellAt row rank.column)).length ∧
          error = .crashed .contradictoryOrder)) ∧
      ∀ output, rank.apply table = .ok output →
        (∀ group ∈ groups, ∀ row ∈ group,
          output.cellAt row rank.outputColumn =
            rank.standing (group.map fun other => table.cellAt other rank.column)
              (table.cellAt row rank.column)) ∧
        ∀ order : List Nat, order.Perm (List.range table.rowCount) →
          ∃ shuffled, rank.apply (table.takeRows order) = .ok shuffled ∧
            ∀ index row, order[index]? = some row →
              shuffled.cellAt index rank.outputColumn = output.cellAt row rank.outputColumn := by
  constructor
  · intro error failed
    obtain ⟨column, found⟩ := Table.exists_column known
    rw [rank.apply_eq found, Table.placeGroups_of_error failed]
  · intro groups grouped
    refine ⟨Table.isGroupedBy_of_groupRows grouped,
      exists_apply_iff wellFormed known noFloat grouped,
      fun error failed => exists_of_apply_error wellFormed known noFloat grouped failed, ?_⟩
    intro output applied
    constructor
    · intro group member row inside
      exact cellAt_apply wellFormed known noFloat grouped applied member inside
    · intro order shuffle
      exact exists_apply_shuffled wellFormed known noFloat grouped applied shuffle

/-- The runs of two heats in turns, with a tie and a gap; marks are numbers in one heat and texts in
the other. -/
def heats : Table :=
  { columns :=
      [⟨"heat", [.text "a", .text "b", .text "a", .text "a", .text "b", .text "a"]⟩,
       ⟨"time", [.integer 12, .null, .integer 10, .integer 12, .integer 9, .integer 15]⟩,
       ⟨"mark", [.integer 2, .text "x", .integer 1, .null, .text "y", .integer 2]⟩]
    rowCount := 6 }

/-- The runs with the places in their heats. -/
def heatsWithPlaces : Table :=
  { columns := heats.columns ++
      [⟨"place", [.integer 2, .null, .integer 1, .integer 2, .integer 1, .integer 4]⟩]
    rowCount := 6 }

/-- The places in a heat count the faster runs, from the last run backwards too.  Over both heats
marks have two kinds. -/
theorem apply_counts_heats :
    heats.WellFormed ∧ heats.hasColumn "time" = true ∧ ¬ heats.HoldsFloat "time" ∧
      heats.groupRows ["heat"] = .ok [[0, 2, 3, 5], [1, 4]] ∧
      Rank.apply ⟨"time", .ascending, .standard, ["heat"], some "place"⟩ heats =
        .ok heatsWithPlaces ∧
      (∀ group ∈ [[0, 2, 3, 5], [1, 4]], ∀ row ∈ group,
        heatsWithPlaces.cellAt row "place" =
          standing ⟨"time", .ascending, .standard, ["heat"], some "place"⟩
            (group.map fun other => heats.cellAt other "time") (heats.cellAt row "time")) ∧
      (∃ shuffled,
        Rank.apply ⟨"time", .ascending, .standard, ["heat"], some "place"⟩
          (heats.takeRows [5, 4, 3, 2, 1, 0]) = .ok shuffled ∧
        ∀ index row, [5, 4, 3, 2, 1, 0][index]? = some row →
          shuffled.cellAt index "place" = heatsWithPlaces.cellAt row "place") ∧
      heats.hasColumn "mark" = true ∧ ¬ heats.HoldsFloat "mark" ∧
      Rank.apply ⟨"mark", .ascending, .dense, [], some "place"⟩ heats =
        .error (.mismatch "mark" (.kind .text) .integer) ∧
      ¬ ∀ group ∈ [[0, 1, 2, 3, 4, 5]], ∃ kind, ∀ row ∈ group,
        (heats.cellAt row "mark").OfKind kind := by
  have wellFormed : heats.WellFormed := ⟨by decide, by decide⟩
  have knownTime : heats.hasColumn "time" = true := by decide
  have knownMark : heats.hasColumn "mark" = true := by decide
  have foundTime : heats.column "time" = .ok ⟨"time",
      [.integer 12, .null, .integer 10, .integer 12, .integer 9, .integer 15]⟩ := rfl
  have foundMark : heats.column "mark" = .ok ⟨"mark",
      [.integer 2, .text "x", .integer 1, .null, .text "y", .integer 2]⟩ := rfl
  have noFloatTime : ¬ heats.HoldsFloat "time" := (Table.holdsFloat_iff foundTime).not.2 (by decide)
  have noFloatMark : ¬ heats.HoldsFloat "mark" := (Table.holdsFloat_iff foundMark).not.2 (by decide)
  have grouped : heats.groupRows ["heat"] = .ok [[0, 2, 3, 5], [1, 4]] := rfl
  have applied : Rank.apply ⟨"time", .ascending, .standard, ["heat"], some "place"⟩ heats =
      .ok heatsWithPlaces := rfl
  have failed : Rank.apply ⟨"mark", .ascending, .dense, [], some "place"⟩ heats =
      .error (.mismatch "mark" (.kind .text) .integer) := rfl
  have byTime :=
    (apply_counts ⟨"time", .ascending, .standard, ["heat"], some "place"⟩ heats wellFormed
      knownTime noFloatTime).2 _ grouped
  have byMark :=
    (apply_counts ⟨"mark", .ascending, .dense, [], some "place"⟩ heats wellFormed knownMark
      noFloatMark).2 [[0, 1, 2, 3, 4, 5]] rfl
  have ranks := byTime.2.2.2 heatsWithPlaces applied
  refine ⟨wellFormed, knownTime, noFloatTime, grouped, applied, ranks.1, ranks.2 _ (by decide),
    knownMark, noFloatMark, failed, ?_⟩
  intro one
  obtain ⟨output, appliedMark⟩ := byMark.2.1.2 one
  rw [failed] at appliedMark
  cases appliedMark

/-- The sizes of 21 parcels, one of them a text. -/
def mixedSizes : Table :=
  { columns :=
      [⟨"size", [.integer 2, .integer 1, .integer 1, .text "x"] ++ List.replicate 17 (.integer 0)⟩]
    rowCount := 21 }

/-- A text counts as equal to all integers around it, so that the sort contradicts itself before the
two kinds are reported. -/
theorem apply_mixedSizes_crashes :
    mixedSizes.WellFormed ∧ mixedSizes.hasColumn "size" = true ∧
      ¬ mixedSizes.HoldsFloat "size" ∧ mixedSizes.groupRows [] = .ok [List.range 21] ∧
      (mixedSizes.cellAt 0 "size").kind? = some .integer ∧
      (mixedSizes.cellAt 3 "size").kind? = some .text ∧
      Rank.apply ⟨"size", .ascending, .standard, [], none⟩ mixedSizes =
        .error (.crashed .contradictoryOrder) := by
  have found : mixedSizes.column "size" = .ok ⟨"size", _⟩ := rfl
  refine ⟨⟨by decide, by decide⟩, by decide, (Table.holdsFloat_iff found).not.2 (by decide), by rfl,
    by decide, by decide, ?_⟩
  rfl

end Rank

end TableFlow
