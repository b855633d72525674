import TableFlow.Proofs.Cell.Transitivity
import TableFlow.Proofs.Table.ByRows
import TableFlow.Proofs.Transform.Functions
import TableFlow.Proofs.Transform.Placement

/-!
# The comparison that ranks are sorted by

The rows of a group are sorted by a comparison that always has an answer: rows that do not compare
count as equal, the first two of them are noted, and the failure is reported when the sort is done,
if it comes to an end.

A sort can rely on its comparison only if it is a total preorder.  Every row is equal to itself, and
two rows compare the other way round in the other order, but equality need not pass from row to row.
It does exactly if no two cells of the group are in order, or if all of them compare and no float is
equal to two different integers.

Main statement: `Rank.apply_preorders_iff`.
-/

namespace TableFlow

namespace Cell

/-- Cells of which no two are in order, or which all compare and among which no float is equal to
two different integers. -/
def Sortable (cells : List Cell) : Prop :=
  (∀ left ∈ cells, ∀ right ∈ cells, left.compare? right ≠ some .lt) ∨
    (∀ left ∈ cells, ∀ right ∈ cells, (left.compare? right).isSome = true) ∧
      ∀ less ∈ cells, ∀ greater ∈ cells, ∀ value ∈ cells, ¬ Blurs less greater value

variable {cells : List Cell}

/-- Not to come ahead passes from cell to cell among sortable cells. -/
theorem Sortable.ne_trans (sortable : Sortable cells) {first second third : Cell}
    (inFirst : first ∈ cells) (inSecond : second ∈ cells) (inThird : third ∈ cells)
    (before : first.compare? second ≠ some .gt)
    (after : second.compare? third ≠ some .gt) : first.compare? third ≠ some .gt := by
  rcases sortable with flat | ⟨comparable, clear⟩
  · intro greater
    exact flat third inThird first inFirst (compare?_eq_some_swap_iff.2 greater)
  · have notAfter {left right : Cell} (inLeft : left ∈ cells) (inRight : right ∈ cells) :
        left.NotAfter right ↔ left.compare? right ≠ some .gt := by
      obtain ⟨ordering, compared⟩ :=
        Option.isSome_iff_exists.1 (comparable left inLeft right inRight)
      simp [notAfter_iff, compared]
    rw [← notAfter inFirst inSecond] at before
    rw [← notAfter inSecond inThird] at after
    rw [← notAfter inFirst inThird]
    refine (isTransitive_of_clear ?_ before after).1
    rintro (blurs | blurs | blurs)
    · exact clear first inFirst second inSecond third inThird blurs
    · exact clear second inSecond third inThird first inFirst blurs
    · exact clear third inThird first inFirst second inSecond blurs

/-- Cells among which not to come ahead passes from cell to cell are sortable. -/
theorem sortable_of_ne_trans
    (trans : ∀ first ∈ cells, ∀ second ∈ cells, ∀ third ∈ cells, first.compare? second ≠ some .gt →
      second.compare? third ≠ some .gt → first.compare? third ≠ some .gt) : Sortable cells := by
  by_cases flat : ∀ left ∈ cells, ∀ right ∈ cells, left.compare? right ≠ some .lt
  · exact .inl flat
  · push Not at flat
    obtain ⟨less, inLess, greater, inGreater, ordered⟩ := flat
    have reversed : greater.compare? less = some .gt := compare?_eq_some_swap_iff.2 ordered
    refine .inr ⟨?_, ?_⟩
    · -- A cell that does not compare with the two would be equal to both of them.
      have comparable : ∀ cell ∈ cells, (less.compare? cell).isSome = true := by
        intro cell inCell
        by_contra apart
        have lessApart : cell.compare? less = none := by
          rwa [isSome_compare?_comm, Bool.not_eq_true, Option.isSome_eq_false_iff,
            Option.isNone_iff_eq_none] at apart
        have greaterApart : greater.compare? cell = none := by
          by_contra together
          rw [← ne_eq, Option.ne_none_iff_isSome] at together
          exact apart (isSome_compare?_of_common (Option.isSome_of_eq_some reversed) together)
        exact trans greater inGreater cell inCell less inLess (by simp [greaterApart])
          (by simp [lessApart]) reversed
      intro left inLeft right inRight
      exact isSome_compare?_of_common (comparable left inLeft) (comparable right inRight)
    · intro less inLess greater inGreater value inValue blurs
      obtain ⟨ordered, equalsLess, equalsGreater⟩ := blurs.compare?_eq
      refine trans greater inGreater value inValue less inLess ?_ ?_
        (compare?_eq_some_swap_iff.2 ordered)
      · simp [equalsGreater]
      · simp [compare?_eq_symm equalsLess]

/-- Cells that compare are sortable unless an integer among them is beyond `2 ^ 53`. -/
theorem sortable_of_small
    (comparable : ∀ left ∈ cells, ∀ right ∈ cells, (left.compare? right).isSome = true)
    (small : ∀ word, .integer word ∈ cells → word.toInt.natAbs ≤ 2 ^ 53) : Sortable cells := by
  refine .inr ⟨comparable, ?_⟩
  intro less inLess greater inGreater value _ blurs
  obtain ⟨word, rfl | rfl, large⟩ := blurs.exists_large
  · exact Nat.not_le_of_lt large (small word inLess)
  · exact Nat.not_le_of_lt large (small word inGreater)

/-- Cells of one kind are sortable if they are no floats. -/
theorem sortable_of_alike (filled : ∀ cell ∈ cells, cell ≠ .null)
    (noFloat : ∀ cell ∈ cells, cell.kind? ≠ some .float)
    (alike : ∀ left ∈ cells, ∀ right ∈ cells, left.kind? = right.kind?) : Sortable cells := by
  refine .inr ⟨?_, ?_⟩
  · intro left inLeft right inRight
    rw [isSome_compare?_iff_kind (noFloat left inLeft) (noFloat right inRight)]
    exact ⟨alike left inLeft right inRight, filled left inLeft⟩
  · intro less _ greater _ value inValue blurs
    cases blurs
    exact noFloat _ inValue rfl

end Cell

namespace Rank

section Rows

variable {order : RankOrder} {column : Column} {left right : Nat}

theorem settledRows_swap :
    settledRows order column right left = (settledRows order column left right).swap := by
  rw [settledRows, settled, settled, compareRows?, compareRows?,
    Cell.compare?_swap (column.cellAt left) (column.cellAt right)]
  cases (column.cellAt left).compare? (column.cellAt right) with
  | none => rfl
  | some ordering => cases order <;> rfl

theorem settledRows_self : settledRows order column left left = .eq := by
  have swapped : settledRows order column left left = (settledRows order column left left).swap :=
    settledRows_swap
  cases same : settledRows order column left left with
  | eq => rfl
  | lt | gt =>
    rw [same] at swapped
    cases swapped

theorem settledRows_ascending_ne_gt_iff :
    settledRows .ascending column left right ≠ .gt ↔
      (column.cellAt left).compare? (column.cellAt right) ≠ some .gt := by
  rw [settledRows, settled, compareRows?]
  cases (column.cellAt left).compare? (column.cellAt right) <;> simp [RankOrder.direct]

theorem settledRows_descending_ne_gt_iff :
    settledRows .descending column left right ≠ .gt ↔
      (column.cellAt right).compare? (column.cellAt left) ≠ some .gt := by
  rw [settledRows, settled, compareRows?,
    Cell.compare?_swap (column.cellAt left) (column.cellAt right)]
  cases (column.cellAt left).compare? (column.cellAt right) <;> simp [RankOrder.direct]

/-- A sort can rely on the comparison of rows whose cells are sortable, and of no others. -/
theorem preordersOn_settledRows_iff {rows : List Nat} :
    PreordersOn (settledRows order column) rows ↔ Cell.Sortable (rows.map column.cellAt) := by
  constructor
  · intro preorders
    apply Cell.sortable_of_ne_trans
    simp only [List.forall_mem_map]
    intro first inFirst second inSecond third inThird before after
    have trans := preorders.trans
    cases order with
    | ascending =>
      simp only [settledRows_ascending_ne_gt_iff] at trans
      exact trans first inFirst second inSecond third inThird before after
    | descending =>
      simp only [settledRows_descending_ne_gt_iff] at trans
      exact trans third inThird second inSecond first inFirst after before
  · intro sortable
    refine ⟨fun _ _ => settledRows_self, fun _ _ _ _ => settledRows_swap, ?_⟩
    intro first inFirst second inSecond third inThird
    have cellsIn {row : Nat} (inRows : row ∈ rows) : column.cellAt row ∈ rows.map column.cellAt :=
      List.mem_map_of_mem inRows
    cases order with
    | ascending =>
      simp only [settledRows_ascending_ne_gt_iff]
      exact sortable.ne_trans (cellsIn inFirst) (cellsIn inSecond) (cellsIn inThird)
    | descending =>
      simp only [settledRows_descending_ne_gt_iff]
      intro before after
      exact sortable.ne_trans (cellsIn inThird) (cellsIn inSecond) (cellsIn inFirst) after before

end Rows

/-- The step sorts the rows of each group by the settled comparison.  Every row is equal to itself
in it, and two rows compare the other way round in the other order.  It is a total preorder on the
ranked rows of a group exactly if their cells are sortable. -/
theorem apply_preorders_iff (rank : Rank) (table : Table) {column : Column}
    (found : table.column rank.column = .ok column) :
    rank.apply table = table.placeGroups rank.groups rank.outputColumn (rank.rankSettling column) ∧
      ∀ group : List Nat,
        (∀ row ∈ rankedRows column group, settledRows rank.order column row row = .eq) ∧
        (∀ left ∈ rankedRows column group, ∀ right ∈ rankedRows column group,
          settledRows rank.order column right left =
            (settledRows rank.order column left right).swap) ∧
        (PreordersOn (settledRows rank.order column) (rankedRows column group) ↔
          Cell.Sortable ((rankedRows column group).map column.cellAt)) := by
  constructor
  · rw [rank.apply_eq found, funext (rank.rankGroup_eq_rankSettling column)]
  · intro group
    exact ⟨fun _ _ => settledRows_self, fun _ _ _ _ => settledRows_swap,
      preordersOn_settledRows_iff⟩

/-- The sizes of the parcels of two depots.  Two sizes of the first depot differ by one, and the
float between them is equal to both. -/
def sizes : Column :=
  ⟨"size", [.integer 9007199254740993, .integer 4, .float 9007199254740992.0, .float 2.5,
    .integer 9007199254740992, .null]⟩

/-- The marks of the parcels, which are of two kinds. -/
def marks : Column :=
  ⟨"mark", [.integer 2, .text "p", .text "x", .text "q", .integer 1, .null]⟩

def parcels : Table :=
  { columns :=
      [⟨"depot", [.text "a", .text "b", .text "a", .text "b", .text "a", .text "b"]⟩,
       sizes, marks]
    rowCount := 6 }

/-- The sizes of the second depot are small, so settling the answers puts them into order. -/
theorem apply_preorders_iff_parcels :
    parcels.column "size" = .ok sizes ∧ parcels.groupRows ["depot"] = .ok [[0, 2, 4], [1, 3, 5]] ∧
      PreordersOn (settledRows .descending sizes) (rankedRows sizes [1, 3, 5]) := by
  have found : parcels.column "size" = .ok sizes := rfl
  have preorders :=
    (apply_preorders_iff ⟨"size", .descending, .standard, ["depot"], none⟩ parcels found).2
      [1, 3, 5]
  refine ⟨found, by decide +kernel, preorders.2.2.2 (Cell.sortable_of_small ?_ ?_)⟩
  · decide +kernel
  · intro word inside
    have same : Cell.integer word ∈ [.integer 4, .float 2.5] := inside
    simp only [List.mem_cons, Cell.integer.injEq, reduceCtorEq, List.not_mem_nil, or_false] at same
    rw [same]
    decide

/-- The comparison of the first depot is a preorder neither by size nor by mark: the second parcel
is equal to the first and to the third one, which are not equal. -/
theorem not_preordersOn_firstDepot :
    parcels.groupRows ["depot"] = .ok [[0, 2, 4], [1, 3, 5]] ∧
      (¬ PreordersOn (settledRows .ascending sizes) (rankedRows sizes [0, 2, 4]) ∧
        ¬ PreordersOn (settledRows .descending sizes) (rankedRows sizes [0, 2, 4])) ∧
      (¬ PreordersOn (settledRows .ascending marks) (rankedRows marks [0, 2, 4]) ∧
        ¬ PreordersOn (settledRows .descending marks) (rankedRows marks [0, 2, 4])) := by
  refine ⟨by decide +kernel, ⟨?_, ?_⟩, ?_, ?_⟩
  all_goals intro preorders
  · exact preorders.trans 0 (by decide) 2 (by decide) 4 (by decide) (by decide +kernel)
      (by decide +kernel) rfl
  · exact preorders.trans 4 (by decide) 2 (by decide) 0 (by decide) (by decide +kernel)
      (by decide +kernel) rfl
  · exact preorders.trans 0 (by decide) 2 (by decide) 4 (by decide) (by decide +kernel)
      (by decide +kernel) rfl
  · exact preorders.trans 4 (by decide) 2 (by decide) 0 (by decide) (by decide +kernel)
      (by decide +kernel) rfl

end Rank

end TableFlow
