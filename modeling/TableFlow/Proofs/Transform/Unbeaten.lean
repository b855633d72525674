import TableFlow.Proofs.Table.Refinement
import TableFlow.Proofs.Transform.Extreme
import TableFlow.Proofs.Transform.Functions

/-!
# The rows that no row of their group beats

The best value of a group is found on a walk that keeps the better one of two cells, and the rows
that compare as equal with it are kept.  Among cells of one kind other than floats the order is
total, so the best value is one that no cell of the group beats, and the rows kept are exactly those
that no row of their group beats.  The walk does not show in this: which rows are kept depends on
the cells of the group, whatever their order.

Main statement: `Extreme.apply_unbeaten`.
-/

namespace TableFlow

/-- The rows of a group whose cells under a name are not empty and are not beaten by a cell of the
group. -/
def Table.unbeatenRows (table : Table) (side : Side) (name : String) (group : List Nat) :
    List Nat :=
  group.filter fun row => !(table.cellAt row name).isNull &&
    group.all fun other => (table.cellAt other name).compare? (table.cellAt row name) !=
      some side.ordering

theorem Table.mem_unbeatenRows {table : Table} {side : Side} {name : String} {group : List Nat}
    {row : Nat} :
    row ∈ table.unbeatenRows side name group ↔
      row ∈ group ∧ table.cellAt row name ≠ .null ∧
        ∀ other ∈ group, (table.cellAt other name).compare? (table.cellAt row name) ≠
          some side.ordering := by
  simp [unbeatenRows, Cell.isNull_eq_false_iff]

namespace Extreme

variable {table output : Table} {column : Column} {kind : Kind} {group : List Nat}

theorem ordering_ne_eq (side : Side) : side.ordering ≠ .eq := by
  cases side <;> decide

/-- A column without floats passes the check exactly if all its cells have one kind. -/
theorem checkComparable_eq_ok_iff_holdsOnly
    (plain : ∀ cell ∈ column.cells, cell.kind? ≠ some .float) :
    checkComparable column = .ok () ↔ ∃ kind, column.HoldsOnly kind := by
  simp only [checkComparable_eq_ok_iff, Column.HoldsOnly, Cell.exists_ofKind_iff]
  constructor
  · intro comparable
    have alike :
        (Cell.filled column.cells).Pairwise fun left right => left.kind? = right.kind? := by
      apply comparable.imp_of_mem
      intro left right inLeft inRight compares
      exact ((Cell.isSome_compare?_iff_kind (plain left (Cell.mem_filled.1 inLeft).1)
        (plain right (Cell.mem_filled.1 inRight).1)).1 compares).1
    have symmetric : Std.Symm fun left right : Cell => left.kind? = right.kind? :=
      ⟨fun _ _ => Eq.symm⟩
    intro left inLeft right inRight filledLeft filledRight
    exact alike.forall_of_forall (fun cell _ => Eq.refl cell.kind?)
      (Cell.mem_filled.2 ⟨inLeft, filledLeft⟩)
      (Cell.mem_filled.2 ⟨inRight, filledRight⟩)
  · intro alike
    apply List.pairwise_of_forall_mem_list
    intro left inLeft right inRight
    obtain ⟨inColumnLeft, filledLeft⟩ := Cell.mem_filled.1 inLeft
    obtain ⟨inColumnRight, filledRight⟩ := Cell.mem_filled.1 inRight
    exact (Cell.isSome_compare?_iff_kind (plain left inColumnLeft) (plain right inColumnRight)).2
      ⟨alike left inColumnLeft right inColumnRight filledLeft filledRight, filledLeft⟩

/-- Of cells that are not all empty the walk gives one that none of them beats. -/
theorem exists_best? (side : Side) (plain : kind ≠ .float) {cells : List Cell}
    (ofKind : ∀ cell ∈ cells, cell.OfKind kind) (occupied : Cell.filled cells ≠ []) :
    ∃ best, best? side cells = some best ∧ best ∈ cells ∧ best ≠ .null ∧
      ∀ other ∈ cells, other.compare? best ≠ some side.ordering :=
  Cell.exists_foldl_keep _ (ordering_ne_eq side) plain ofKind occupied

/-- The cells that compare as equal with the best one are those that no cell beats. -/
theorem compare?_best_iff (side : Side) (plain : kind ≠ .float) {cells : List Cell}
    (ofKind : ∀ cell ∈ cells, cell.OfKind kind) {best : Cell} (inCells : best ∈ cells)
    (filledBest : best ≠ .null) (none : ∀ other ∈ cells, other.compare? best ≠ some side.ordering)
    {cell : Cell} (member : cell ∈ cells) :
    cell.compare? best = some .eq ↔
      cell ≠ .null ∧ ∀ other ∈ cells, other.compare? cell ≠ some side.ordering := by
  rw [Cell.compare?_eq_some_eq_iff ((ofKind cell member).kind?_ne_float plain)
    ((ofKind best inCells).kind?_ne_float plain)]
  constructor
  · rintro ⟨rfl, filled⟩
    exact ⟨filled, none⟩
  · rintro ⟨filled, unbeaten⟩
    refine ⟨?_, filled⟩
    exact Cell.eq_of_compare?_ne (ordering_ne_eq side) plain ((ofKind cell member).kind?_eq filled)
      ((ofKind best inCells).kind?_eq filledBest) (none cell member) (unbeaten best inCells)

/-- The rows kept of a group are those that no row of the group beats. -/
theorem bestRows_eq_unbeatenRows (side : Side) {name : String}
    (found : table.column name = .ok column) (plain : kind ≠ .float)
    (only : column.HoldsOnly kind) (group : List Nat) :
    bestRows side column group = table.unbeatenRows side name group := by
  have ofKind : ∀ cell ∈ group.map column.cellAt, cell.OfKind kind := by
    rw [List.forall_mem_map]
    exact fun row _ => only.cellAt row
  simp only [Table.unbeatenRows, Table.cellAt_eq_of_column found]
  by_cases empty : Cell.filled (group.map column.cellAt) = []
  · have noBest : bestRows side column group = [] := by
      rw [bestRows, best?, empty]
      rfl
    rw [Cell.filled_eq_nil_iff, List.forall_mem_map] at empty
    rw [noBest, eq_comm, List.filter_eq_nil_iff]
    intro row member
    simp [empty row member, Cell.isNull]
  · obtain ⟨best, isBest, inCells, filledBest, none⟩ := exists_best? side plain ofKind empty
    rw [bestRows, isBest]
    apply List.filter_congr
    intro row member
    rw [Bool.eq_iff_iff, beq_iff_eq, compare?_best_iff side plain ofKind inCells filledBest none
      (List.mem_map_of_mem member)]
    simp [Cell.isNull_eq_false_iff]

/-- The rows kept of a group: there is one if the group is not empty throughout, ties are kept
together, and no row is kept on both sides unless all values of the group are equal. -/
structure Keeps (table : Table) (name : String) (group : List Nat) (side : Side) : Prop where
  nonempty : (∃ row ∈ group, table.cellAt row name ≠ .null) →
    table.unbeatenRows side name group ≠ []
  ties : ∀ row ∈ table.unbeatenRows side name group, ∀ other ∈ group,
    (table.cellAt other name).compare? (table.cellAt row name) = some .eq →
    other ∈ table.unbeatenRows side name group
  disjoint : (table.unbeatenRows .greatest name group).Disjoint
      (table.unbeatenRows .least name group) ∨
    ∀ first ∈ group, ∀ second ∈ group, table.cellAt first name ≠ .null →
      table.cellAt second name ≠ .null → table.cellAt first name = table.cellAt second name

theorem keeps_of_ofKind {name : String} (plain : kind ≠ .float)
    (ofKind : ∀ row ∈ group, (table.cellAt row name).OfKind kind) (side : Side) :
    Keeps table name group side where
  nonempty := by
    rintro ⟨row, member, filled⟩
    have ofCells : ∀ cell ∈ group.map (table.cellAt · name), cell.OfKind kind := by
      rwa [List.forall_mem_map]
    have occupied : Cell.filled (group.map (table.cellAt · name)) ≠ [] :=
      List.ne_nil_of_mem (Cell.mem_filled.2 ⟨List.mem_map_of_mem member, filled⟩)
    obtain ⟨best, -, inCells, filledBest, none⟩ := exists_best? side plain ofCells occupied
    obtain ⟨bestRow, inGroup, rfl⟩ := List.mem_map.1 inCells
    rw [List.forall_mem_map] at none
    exact List.ne_nil_of_mem (Table.mem_unbeatenRows.2 ⟨inGroup, filledBest, none⟩)
  ties := by
    intro row kept other member tied
    obtain ⟨inGroup, filled, unbeaten⟩ := Table.mem_unbeatenRows.1 kept
    obtain ⟨equal, -⟩ := (Cell.compare?_eq_some_eq_iff ((ofKind other member).kind?_ne_float plain)
      ((ofKind row inGroup).kind?_ne_float plain)).1 tied
    rw [Table.mem_unbeatenRows, equal]
    exact ⟨member, filled, unbeaten⟩
  disjoint := by
    by_cases shared : ∃ row ∈ table.unbeatenRows .greatest name group,
        row ∈ table.unbeatenRows .least name group
    · -- No value of the group is greater than that of the shared row, and none is less.
      obtain ⟨row, isGreatest, isLeast⟩ := shared
      obtain ⟨inGroup, filled, notGreater⟩ := Table.mem_unbeatenRows.1 isGreatest
      obtain ⟨-, -, notLess⟩ := Table.mem_unbeatenRows.1 isLeast
      have equal {other : Nat} (member : other ∈ group)
          (filledOther : table.cellAt other name ≠ .null) :
          table.cellAt other name = table.cellAt row name := by
        refine Cell.eq_of_compare?_ne (ordering_ne_eq .greatest) plain
          ((ofKind other member).kind?_eq filledOther) ((ofKind row inGroup).kind?_eq filled)
          (notGreater other member) ?_
        intro greater
        exact notLess other member (Cell.compare?_eq_some_swap_iff.1 greater)
      right
      intro first firstIn second secondIn filledFirst filledSecond
      rw [equal firstIn filledFirst, equal secondIn filledSecond]
    · left
      intro row isGreatest isLeast
      exact shared ⟨row, isGreatest, isLeast⟩

/-- The rows are kept if the column passes the check. -/
theorem apply_eq_ok_iff {extreme : Extreme} {groups : List (List Nat)} {side : Side}
    (found : table.column extreme.column = .ok column)
    (grouped : table.groupRows extreme.groups = .ok groups) :
    extreme.apply side table = .ok output ↔
      checkComparable column = .ok () ∧
        output = table.takeRows (groups.flatMap (bestRows side column)) := by
  simp only [apply, found, grouped]
  cases checkComparable column with
  | error error => simp
  | ok passed => simp [eq_comm]

/-- The rows kept are, group by group, those that no row of their group beats.  They are found
exactly if the column has one kind of cells. -/
theorem apply_unbeaten (extreme : Extreme) (table : Table)
    (known : table.hasColumn extreme.column = true)
    (keysKnown : ∀ name ∈ extreme.groups, table.hasColumn name = true)
    (noFloat : ¬ table.HoldsFloat extreme.column) :
    ∃ groups, table.groupRows extreme.groups = .ok groups ∧
      table.IsGroupedBy extreme.groups groups ∧
      ∀ side,
        ((∃ output, extreme.apply side table = .ok output) ↔
          ∃ kind, ∀ row, (table.cellAt row extreme.column).OfKind kind) ∧
        ∀ output, extreme.apply side table = .ok output →
          output =
            table.takeRows (groups.flatMap (table.unbeatenRows side extreme.column)) ∧
          ∀ group ∈ groups, Keeps table extreme.column group side := by
  obtain ⟨column, found⟩ := Table.exists_column known
  obtain ⟨columns, foundKeys⟩ := Table.exists_columnsOf keysKnown
  have grouped := Table.groupRows_of_columnsOf foundKeys
  have plainCells : ∀ cell ∈ column.cells, cell.kind? ≠ some .float :=
    fun cell member => Table.kind?_ne_float_of_mem found noFloat member
  have checked := checkComparable_eq_ok_iff_holdsOnly plainCells
  refine ⟨_, grouped, Table.isGroupedBy_groupBy foundKeys, ?_⟩
  intro side
  simp only [apply_eq_ok_iff found grouped, ← Table.holdsOnly_iff found, ← checked,
    exists_and_left, exists_eq, and_true, true_and]
  rintro output ⟨comparable, rfl⟩
  obtain ⟨kind, plain, only⟩ := Cell.exists_ofKind_of_noFloat (checked.1 comparable) plainCells
  constructor
  · rw [funext (bestRows_eq_unbeatenRows side found plain only)]
  · intro group _
    exact keeps_of_ofKind plain (fun row _ => (Table.holdsOnly_iff found).1 only row) side

/-- Scores of three teams in turns, with a tie, and with gaps of which one team has nothing else. -/
def scores : Table :=
  { columns :=
      [⟨"team", [.text "a", .text "b", .text "a", .text "b", .text "c", .text "a"]⟩,
       ⟨"score", [.integer 3, .integer 7, .integer 3, .null, .null, .integer 1]⟩]
    rowCount := 6 }

/-- Both rows of the tie are kept of the first team, and none of the last. -/
theorem apply_unbeaten_scores :
    scores.hasColumn "score" = true ∧ (∀ name ∈ ["team"], scores.hasColumn name = true) ∧
      ¬ scores.HoldsFloat "score" ∧
      Extreme.apply ⟨"score", ["team"]⟩ .greatest scores = .ok (scores.takeRows [0, 2, 1]) ∧
      Extreme.apply ⟨"score", ["team"]⟩ .least scores = .ok (scores.takeRows [5, 1]) ∧
      ∃ groups, scores.groupRows ["team"] = .ok groups ∧ scores.IsGroupedBy ["team"] groups ∧
        scores.takeRows [0, 2, 1] =
          scores.takeRows (groups.flatMap (scores.unbeatenRows .greatest "score")) ∧
        ∀ group ∈ groups, Keeps scores "score" group .greatest := by
  have known : scores.hasColumn "score" = true := by decide
  have keysKnown : ∀ name ∈ ["team"], scores.hasColumn name = true := by decide
  have found : scores.column "score" =
      .ok ⟨"score", [.integer 3, .integer 7, .integer 3, .null, .null, .integer 1]⟩ := rfl
  have noFloat : ¬ scores.HoldsFloat "score" := (Table.holdsFloat_iff found).not.2 (by decide)
  have greatest : Extreme.apply ⟨"score", ["team"]⟩ .greatest scores =
      .ok (scores.takeRows [0, 2, 1]) := rfl
  obtain ⟨groups, grouped, classes, kept⟩ :=
    apply_unbeaten ⟨"score", ["team"]⟩ scores known keysKnown noFloat
  exact ⟨known, keysKnown, noFloat, greatest, rfl, groups, grouped, classes,
    (kept .greatest).2 _ greatest⟩

end Extreme

end TableFlow
