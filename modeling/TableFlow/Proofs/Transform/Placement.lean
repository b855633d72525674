import TableFlow.Proofs.Sorting.Lists
import TableFlow.Proofs.Table.Columns
import TableFlow.Proofs.Table.Groups
import TableFlow.Proofs.Transform.Numeric
import TableFlow.Transform.Rank
import TableFlow.Transform.RunningSum
import TableFlow.Transform.Share

/-!
# Cells placed group by group

Ranks, shares and running sums are computed for each group, every cell with the number of its row,
and the new column is put together from the cells of all groups.  What is computed for a group
depends on the cells of its rows and not on their numbers, and it stays within the group.  So the
rows of a group get what they would get in a table of their own.

Main statement: `RowWise.restricts_placeGroups`.
-/

namespace TableFlow

/-- A row finds only what its own group placed. -/
theorem lookup_flatMap_of_mem {place : List Nat → List (Nat × Cell)} {groups : List (List Nat)}
    (nodup : groups.flatten.Nodup)
    (inside : ∀ group ∈ groups, ∀ entry ∈ place group, entry.1 ∈ group)
    {rows : List Nat} (member : rows ∈ groups) {row : Nat} (inRows : row ∈ rows) :
    (groups.flatMap place).lookup row = (place rows).lookup row := by
  induction groups with
  | nil => cases member
  | cons group rest ih =>
      rw [List.forall_mem_cons] at inside
      rw [List.flatten_cons, List.nodup_append] at nodup
      obtain ⟨-, nodupRest, disjoint⟩ := nodup
      rw [List.flatMap_cons, List.lookup_append]
      rcases List.mem_cons.1 member with rfl | later
      · have absent : (rest.flatMap place).lookup row = none := by
          rw [List.lookup_eq_none_iff]
          intro entry placed
          obtain ⟨other, inRest, inPlace⟩ := List.mem_flatMap.1 placed
          have elsewhere := List.mem_flatten_of_mem inRest (inside.2 other inRest entry inPlace)
          exact bne_iff_ne.2 (disjoint row inRows entry.1 elsewhere)
        rw [absent, Option.or_none]
      · have absent : (place group).lookup row = none := by
          rw [List.lookup_eq_none_iff]
          intro entry inPlace
          have elsewhere := List.mem_flatten_of_mem later inRows
          exact bne_iff_ne.2 (disjoint entry.1 (inside.1 entry inPlace) row elsewhere).symm
        rw [absent, Option.none_or]
        exact ih nodupRest inside.2 later

/-- What is placed in different rows is found there. -/
theorem lookup_eq_some_of_mem {entries : List (Nat × Cell)} (nodup : (entries.map Prod.fst).Nodup)
    {row : Nat} {cell : Cell} (member : (row, cell) ∈ entries) :
    entries.lookup row = some cell := by
  obtain ⟨before, after, rfl⟩ := List.append_of_mem member
  rw [List.lookup_eq_some_iff]
  refine ⟨before, after, rfl, ?_⟩
  intro entry earlier
  rw [List.map_append, List.nodup_append] at nodup
  exact bne_iff_ne.2 (nodup.2.2 entry.1 (List.mem_map_of_mem earlier) row (by simp)).symm

/-- Where the cells depend on the rows it does not matter how often a row occurs. -/
theorem lookup_map_pair (rows : List Nat) (cell : Nat → Cell) (row : Nat) :
    (rows.map fun other => (other, cell other)).lookup row =
      if row ∈ rows then some (cell row) else none := by
  induction rows with
  | nil => rfl
  | cons first rest ih =>
      rw [List.map_cons, List.lookup_cons, ih]
      by_cases same : row = first
      · simp [same]
      · simp [same, beq_eq_false_iff_ne.2 same]

/-- Entries for positions among different rows are found under these rows. -/
theorem lookup_map_getD {rows : List Nat} (nodup : rows.Nodup) (beyond : Nat)
    {entries : List (Nat × Cell)} (inside : ∀ entry ∈ entries, entry.1 < rows.length)
    {index : Nat} (bound : index < rows.length) :
    (entries.map (Prod.map (rows.getD · beyond) id)).lookup rows[index] = entries.lookup index := by
  induction entries with
  | nil => rfl
  | cons entry rest ih =>
      rw [List.forall_mem_cons] at inside
      obtain ⟨position, cell⟩ := entry
      have sameTest : (rows[index] == rows.getD position beyond) = (index == position) := by
        rw [Bool.eq_iff_iff, beq_iff_eq, beq_iff_eq, ← List.getElem?_inj bound nodup]
        simp [bound, inside.1]
      rw [List.map_cons, Prod.map_apply, List.lookup_cons, List.lookup_cons, sameTest, ih inside.2,
        id]

@[simp] theorem length_scatter (rows : Nat) (placed : List (Nat × Cell)) :
    (scatter rows placed).length = rows := by
  rw [scatter, List.length_map, List.length_range]

theorem cellAt_scatter (name : String) {rows row : Nat} (placed : List (Nat × Cell))
    (bound : row < rows) :
    (Column.mk name (scatter rows placed)).cellAt row = (placed.lookup row).getD .null := by
  rw [Column.cellAt, scatter, List.getD_eq_getElem?_getD, List.getElem?_map,
    List.getElem?_range bound, Option.map_some, Option.getD_some]

/-- A placement of cells for some rows of a column that sees the cells of these rows and not their
numbers, and places cells in these rows only. -/
structure RowWise (place : Column → List Nat → Except StepError (List (Nat × Cell))) : Prop where
  place_map : ∀ {source column : Column} {renumber : Nat → Nat} (rows : List Nat),
    source.name = column.name → (∀ row, source.cellAt (renumber row) = column.cellAt row) →
    place source (rows.map renumber) =
      (place column rows).map (List.map (Prod.map renumber id))
  mem_rows : ∀ {column : Column} {rows : List Nat} {entries : List (Nat × Cell)},
    place column rows = .ok entries → ∀ entry ∈ entries, entry.1 ∈ rows

variable {place : Column → List Nat → Except StepError (List (Nat × Cell))}
variable {groups : List (List Nat)} {rows : List Nat}

/-- What is placed in some rows is what is placed in the table of these rows, at their positions. -/
theorem RowWise.place_takeRows (rowWise : RowWise place) {column : Column}
    {placed : List (Nat × Cell)} (computed : place column rows = .ok placed) :
    ∃ entries, place (column.takeRows rows) (List.range rows.length) = .ok entries ∧
      placed = entries.map (Prod.map (rows.getD · column.cells.length) id) := by
  -- A position beyond the rows goes beyond the column, so that the cells agree for all positions.
  have agree (index : Nat) :
      column.cellAt (rows.getD index column.cells.length) = (column.takeRows rows).cellAt index :=
    (column.cellAt_takeRows rows (Nat.le_refl _) index).symm
  have renumbered := rowWise.place_map (List.range rows.length) (column.name_takeRows).symm agree
  rw [map_getD_range, computed] at renumbered
  cases placedThere : place (column.takeRows rows) (List.range rows.length) with
  | error error =>
      rw [placedThere] at renumbered
      cases renumbered
  | ok entries =>
      rw [placedThere] at renumbered
      cases renumbered
      exact ⟨entries, rfl, rfl⟩

/-- The cells placed in the rows of a group are those placed in the table of these rows. -/
theorem RowWise.takeRows_scatter (rowWise : RowWise place) {column : Column} {count : Nat}
    (partition : IsPartition groups (List.range count)) {placed : List (List (Nat × Cell))}
    (traversed : groups.mapM (place column) = .ok placed) (member : rows ∈ groups) (name : String) :
    ∃ entries, place (column.takeRows rows) (List.range rows.length) = .ok entries ∧
      (Column.mk name (scatter count placed.flatten)).takeRows rows =
        Column.mk name (scatter rows.length entries) := by
  obtain ⟨value, each, rfl⟩ := exists_of_mapM_eq_ok [] traversed
  have nodup := partition.nodup_flatten List.nodup_range
  have nodupRows : rows.Nodup := nodup.sublist (List.sublist_flatten_of_mem member)
  obtain ⟨entries, computed, valueEq⟩ := rowWise.place_takeRows (each rows member)
  refine ⟨entries, computed, ?_⟩
  rw [Column.takeRows, Column.mk.injEq]
  refine ⟨rfl, ?_⟩
  apply List.ext_getElem
  · rw [List.length_map, length_scatter]
  · intro index bound _
    rw [List.length_map] at bound
    have inRows : rows[index] ∈ rows := List.getElem_mem bound
    have inRange := List.mem_range.1 (partition.mem member inRows)
    have inside (entry : Nat × Cell) (placed : entry ∈ entries) : entry.1 < rows.length :=
      List.mem_range.1 (rowWise.mem_rows computed entry placed)
    have ownGroup := lookup_flatMap_of_mem nodup
      (fun group inGroups => rowWise.mem_rows (each group inGroups)) member inRows
    rw [List.getElem_map, cellAt_scatter name _ inRange, ← List.flatMap_def, ownGroup, valueEq,
      lookup_map_getD nodupRows _ inside bound]
    simp [scatter]

/-! ## Tables of groups -/

/-- Place cells group by group in a new column. -/
def Table.placeGroups (table : Table) (keys : List String) (name : String)
    (place : List Nat → Except StepError (List (Nat × Cell))) : Except StepError Table :=
  match table.groupRows keys with
  | .error error => .error error
  | .ok groups =>
      match groups.mapM place with
      | .error error => .error error
      | .ok placed => table.withColumn ⟨name, scatter table.rowCount placed.flatten⟩

theorem Table.placeGroups_of_error {table : Table} {keys : List String} {error : StepError}
    (failed : table.groupRows keys = .error error) (name : String)
    (place : List Nat → Except StepError (List (Nat × Cell))) :
    table.placeGroups keys name place = .error error := by
  rw [placeGroups, failed]

/-- Without keys all rows are one group. -/
theorem Table.placeGroups_nil {table : Table} (someRows : table.rowCount ≠ 0) (name : String)
    (place : List Nat → Except StepError (List (Nat × Cell))) :
    table.placeGroups [] name place =
      match place (List.range table.rowCount) with
      | .error error => .error error
      | .ok entries => table.withColumn ⟨name, scatter table.rowCount entries⟩ := by
  rw [placeGroups, groupRows_nil_of_pos someRows]
  simp only [List.mapM_cons, List.mapM_nil]
  cases place (List.range table.rowCount) with
  | error error => rfl
  | ok entries => simp [bind, Except.bind, pure, Except.pure]

/-- Cells cannot be placed if they cannot be placed in a group; otherwise there is a column of
them. -/
theorem Table.WellFormed.placeGroups_cases {table : Table} (wellFormed : table.WellFormed)
    {keys : List String} (grouped : table.groupRows keys = .ok groups) (name : String)
    (place : List Nat → Except StepError (List (Nat × Cell))) :
    (∃ error, groups.mapM place = .error error ∧
      table.placeGroups keys name place = .error error) ∨
    ∃ placed output, groups.mapM place = .ok placed ∧
      table.withColumn ⟨name, scatter table.rowCount placed.flatten⟩ = .ok output ∧
      table.placeGroups keys name place = .ok output := by
  simp only [Table.placeGroups, grouped]
  cases groups.mapM place with
  | error error => exact .inl ⟨error, rfl, rfl⟩
  | ok placed =>
      obtain ⟨output, added, -⟩ := wellFormed.exists_withColumn
        ⟨name, scatter table.rowCount placed.flatten⟩ (length_scatter ..)
      exact .inr ⟨placed, output, rfl, added, added⟩

/-- Cells can be placed in a table exactly if they can be placed in each of its groups. -/
theorem Table.WellFormed.exists_placeGroups_iff {table : Table} (wellFormed : table.WellFormed)
    {keys : List String} (grouped : table.groupRows keys = .ok groups) (name : String)
    (place : List Nat → Except StepError (List (Nat × Cell))) :
    (∃ output, table.placeGroups keys name place = .ok output) ↔
      ∀ group ∈ groups, ∃ entries, place group = .ok entries := by
  rcases wellFormed.placeGroups_cases grouped name place with
    ⟨error, failed, placed⟩ | ⟨placed, output, traversed, -, applied⟩
  · obtain ⟨group, member, failedThere⟩ := exists_of_mapM_eq_error failed
    simp only [placed, reduceCtorEq, exists_false, false_iff]
    intro each
    obtain ⟨entries, computed⟩ := each group member
    rw [failedThere] at computed
    cases computed
  · exact ⟨fun _ => ((mapM_eq_ok_iff_toOption [] placed).1 traversed).1, fun _ => ⟨output, applied⟩⟩

/-- A failure to place cells in a table is a failure in one of its groups. -/
theorem Table.WellFormed.exists_of_placeGroups_error {table : Table} (wellFormed : table.WellFormed)
    {keys : List String} (grouped : table.groupRows keys = .ok groups) {name : String}
    {place : List Nat → Except StepError (List (Nat × Cell))} {error : StepError}
    (failed : table.placeGroups keys name place = .error error) :
    ∃ group ∈ groups, place group = .error error := by
  rcases wellFormed.placeGroups_cases grouped name place with
    ⟨found, failedThere, placed⟩ | ⟨-, output, -, -, applied⟩
  · rw [failed] at placed
    cases placed
    exact exists_of_mapM_eq_error failedThere
  · rw [failed] at applied
    cases applied

/-- A row gets what its group places there. -/
theorem RowWise.cellAt_of_placeGroups (rowWise : RowWise place) {table output : Table}
    (wellFormed : table.WellFormed) {keys : List String}
    (grouped : table.groupRows keys = .ok groups) {name : String} {column : Column}
    (applied : table.placeGroups keys name (place column) = .ok output) (member : rows ∈ groups)
    {row : Nat} (inRows : row ∈ rows) :
    ∃ entries, place column rows = .ok entries ∧
      output.cellAt row name = (entries.lookup row).getD .null := by
  rcases wellFormed.placeGroups_cases grouped name (place column) with
    ⟨error, -, failed⟩ | ⟨placed, built, traversed, added, appliedBuilt⟩
  · rw [applied] at failed
    cases failed
  · rw [applied] at appliedBuilt
    cases appliedBuilt
    obtain ⟨value, each, rfl⟩ := exists_of_mapM_eq_ok [] traversed
    have partition := Table.isPartition_groupRows grouped
    have ownGroup := lookup_flatMap_of_mem (partition.nodup_flatten List.nodup_range)
      (fun group inGroups => rowWise.mem_rows (each group inGroups)) member inRows
    refine ⟨value rows, each rows member, ?_⟩
    rw [Table.cellAt_eq_of_column (Table.column_of_withColumn added),
      cellAt_scatter name _ (List.mem_range.1 (partition.mem member inRows)), ← List.flatMap_def,
      ownGroup]

/-- The rows of a group get in the whole table what they get in a table of their own. -/
theorem RowWise.restricts_placeGroups (rowWise : RowWise place) {table output : Table}
    (wellFormed : table.WellFormed) {keys : List String} {name : String} {column : Column}
    (applied : table.placeGroups keys name (place column) = .ok output) :
    ∃ groups, table.groupRows keys = .ok groups ∧ ∀ rows ∈ groups, ∃ part,
      (table.takeRows rows).placeGroups [] name (place (column.takeRows rows)) = .ok part ∧
        output.Restricts part name rows := by
  rw [Table.placeGroups] at applied
  split at applied
  · cases applied
  · rename_i groups grouped
    split at applied
    · cases applied
    · rename_i placed traversed
      have partition := Table.isPartition_groupRows grouped
      refine ⟨groups, grouped, ?_⟩
      intro rows member
      obtain ⟨entries, computed, taken⟩ := rowWise.takeRows_scatter partition traversed member name
      obtain ⟨part, added, -⟩ := (wellFormed.takeRows rows).exists_withColumn
        ⟨name, scatter rows.length entries⟩ (length_scatter ..)
      refine ⟨part, ?_, _, Table.column_of_withColumn applied, ?_, ?_⟩
      · rw [Table.placeGroups_nil (Table.rowCount_takeRows_ne_zero grouped member),
          Table.rowCount_takeRows, computed]
        exact added
      · intro row inRows
        rw [length_scatter]
        exact List.mem_range.1 (partition.mem member inRows)
      · rw [taken]
        exact Table.column_of_withColumn added

/-! ## Three row-wise placements -/

theorem RunningSum.rowWise_sumGroup (asFloat : Bool) : RowWise (sumGroup asFloat) where
  place_map := by
    intro source column renumber rows names agree
    simp only [sumGroup, Column.map_cellAt_map agree, names, List.zip_map_left]
    cases asFloat with
    | true => rfl
    | false => cases sumInts column.name 0 (rows.map column.cellAt) <;> rfl
  mem_rows := by
    intro column rows entries computed entry member
    rw [sumGroup] at computed
    split at computed
    · cases computed
      exact (List.of_mem_zip member).1
    · split at computed
      · cases computed
      · cases computed
        exact (List.of_mem_zip member).1

theorem Share.rowWise_shareGroup : RowWise fun column rows => .ok (shareGroup column rows) where
  place_map := by
    intro source column renumber rows names agree
    rw [Except.map, Except.ok.injEq]
    simp only [shareGroup, List.filterMap_map, Function.comp_def, agree]
    split
    · rfl
    · simp [List.map_filterMap, Function.comp_def, Option.map_map]
  mem_rows := by
    intro column rows entries computed entry member
    cases computed
    rw [shareGroup] at member
    split at member
    · cases member
    · obtain ⟨row, inRows, placed⟩ := List.mem_filterMap.1 member
      obtain ⟨value, -, rfl⟩ := Option.map_eq_some_iff.1 placed
      exact inRows

namespace Rank

variable {source column : Column} {renumber : Nat → Nat}

theorem compareRows?_map (agree : ∀ row, source.cellAt (renumber row) = column.cellAt row)
    (order : RankOrder) (left right : Nat) :
    compareRows? order source (renumber left) (renumber right) =
      compareRows? order column left right := by
  simp only [compareRows?, agree]

theorem number_map (agree : ∀ row, source.cellAt (renumber row) = column.cellAt row)
    (method : RankMethod) (position : Nat) (previous : Option (Nat × Nat)) (rows : List Nat) :
    number method source position (previous.map (Prod.map renumber id)) (rows.map renumber) =
      (number method column position previous rows).map (Prod.map renumber id) := by
  induction rows generalizing position previous with
  | nil => rfl
  | cons row rest ih =>
      cases previous with
      | none =>
          simp only [number, List.map_cons, Option.map_none, Prod.map_apply, id, ← ih]
          rfl
      | some before =>
          simp only [number, List.map_cons, Option.map_some, Prod.map_fst, Prod.map_snd,
            Prod.map_apply, id, agree, ← ih]

theorem map_fst_number (method : RankMethod) (column : Column) (position : Nat)
    (previous : Option (Nat × Nat)) (rows : List Nat) :
    (number method column position previous rows).map Prod.fst = rows := by
  induction rows generalizing position previous with
  | nil => rfl
  | cons row rest ih => simp only [number, List.map_cons, ih]

/-- The rows of a group that are ranked. -/
def rankedRows (column : Column) (rows : List Nat) : List Nat :=
  rows.filter fun row => !(column.cellAt row).isNull

/-- The comparison that the sort of a group is given: rows that do not compare count as equal. -/
def settledRows (order : RankOrder) (column : Column) : Nat → Nat → Ordering :=
  settled (compareRows? order column)

/-- The first two rows that a sort by the settled comparison asks about and that do not compare. -/
def apartRows? (order : RankOrder) (column : Column) (rows : List Nat) : Option (Nat × Nat) :=
  (questions (settledRows order column) rows).find? (failsOn (compareRows? order column))

/-- The ranks of a group, from a sort by the settled comparison that comes to an end. -/
def ranksOf (rank : Rank) (column : Column) (rows sorted : List Nat) :
    Except StepError (List (Nat × Cell)) :=
  (apartRows? rank.order column rows).elim
    (.ok ((number rank.method column 0 none sorted).map fun ranked =>
      (ranked.1, .integer (Int64.ofNat ranked.2))))
    fun apart =>
      .error (.incomparable column.name (column.cellAt apart.1) (column.cellAt apart.2))

/-- The ranks of a group, by a sort that goes on when two rows do not compare. -/
def rankSettling (rank : Rank) (column : Column) (rows : List Nat) :
    Except StepError (List (Nat × Cell)) :=
  (sorted? (settledRows rank.order column) (rankedRows column rows)).elim
    (.error (.crashed .contradictoryOrder)) (rank.ranksOf column (rankedRows column rows))

theorem rankGroup_eq_rankSettling (rank : Rank) (column : Column) (rows : List Nat) :
    rank.rankGroup column rows = rank.rankSettling column rows := by
  rw [rankGroup, sortBy_noting, rankSettling, settledRows]
  rw [rankedRows]
  cases sorted? (settled (compareRows? rank.order column))
      (rows.filter fun row => !(column.cellAt row).isNull) with
  | none => rfl
  | some sorted =>
      rw [Option.elim_some, ranksOf, apartRows?, settledRows]
      cases (questions (settled (compareRows? rank.order column)) (rows.filter fun row =>
        !(column.cellAt row).isNull)).find? (failsOn (compareRows? rank.order column)) <;> rfl

theorem rowWise_rankGroup (rank : Rank) : RowWise rank.rankGroup where
  place_map := by
    intro source column renumber rows names agree
    have ranked :
        rankedRows source (rows.map renumber) = (rankedRows column rows).map renumber := by
      simp only [rankedRows, List.filter_map, Function.comp_def, agree]
    have compares := compareRows?_map agree rank.order
    have settles (left right : Nat) :
        settledRows rank.order source (renumber left) (renumber right) =
        settledRows rank.order column left right := by
      rw [settledRows, settledRows, settled, settled, compares]
    have apart : apartRows? rank.order source ((rankedRows column rows).map renumber) =
        (apartRows? rank.order column (rankedRows column rows)).map
          (Prod.map renumber renumber) := by
      rw [apartRows?, apartRows?, questions_map, List.find?_map]
      simp only [settles, Function.comp_def, failsOn, Prod.map_fst, Prod.map_snd, compares]
      rfl
    rw [rankGroup_eq_rankSettling, rankGroup_eq_rankSettling, rankSettling, rankSettling, ranked,
      sorted?_map]
    simp only [settles]
    cases sorted? (settledRows rank.order column) (rankedRows column rows) with
    | none => rfl
    | some sorted =>
        have numbered := number_map agree rank.method 0 none sorted
        rw [Option.map_none] at numbered
        simp only [Option.map_some, Option.elim_some, ranksOf, apart]
        cases apartRows? rank.order column (rankedRows column rows) with
        | none => simp [Except.map, numbered]
        | some pair => simp [Except.map, agree, names]
  mem_rows := by
    intro column rows entries computed entry member
    rw [rankGroup_eq_rankSettling, rankSettling] at computed
    cases found : sorted? (settledRows rank.order column) (rankedRows column rows) with
    | none =>
        rw [found] at computed
        cases computed
    | some sorted =>
        rw [found, Option.elim_some, ranksOf] at computed
        cases apart : apartRows? rank.order column (rankedRows column rows) with
        | some pair =>
            rw [apart] at computed
            cases computed
        | none =>
            rw [apart] at computed
            cases computed
            obtain ⟨⟨row, position⟩, numbered, rfl⟩ := List.mem_map.1 member
            have inSorted : row ∈ sorted := by
              rw [← map_fst_number rank.method column 0 none sorted]
              exact List.mem_map_of_mem numbered
            exact List.mem_of_mem_filter ((perm_of_sorted? found).subset inSorted)

end Rank

variable {table output : Table} {column : Column}

theorem Rank.apply_eq (rank : Rank) (found : table.column rank.column = .ok column) :
    rank.apply table = table.placeGroups rank.groups rank.outputColumn (rank.rankGroup column) := by
  rw [apply, found]
  rfl

/-- The ranks of a group are those of a table of its own. -/
theorem Rank.restricts_apply {rank : Rank} (wellFormed : table.WellFormed)
    (applied : rank.apply table = .ok output) :
    ∃ groups, table.groupRows rank.groups = .ok groups ∧ ∀ rows ∈ groups, ∃ part,
      Rank.apply { rank with groups := [] } (table.takeRows rows) = .ok part ∧
        output.Restricts part rank.outputColumn rows := by
  cases found : table.column rank.column with
  | error error =>
      rw [apply, found] at applied
      cases applied
  | ok column =>
      rw [apply_eq rank found] at applied
      obtain ⟨groups, grouped, each⟩ :=
        rank.rowWise_rankGroup.restricts_placeGroups wellFormed applied
      refine ⟨groups, grouped, ?_⟩
      intro rows member
      obtain ⟨part, placed, restricts⟩ := each rows member
      have foundRows := Table.column_takeRows found rows
      exact ⟨part, (apply_eq { rank with groups := [] } foundRows).trans placed, restricts⟩

theorem Share.apply_eq (share : Share) {kinds : List Kind}
    (found : table.column share.column = .ok column)
    (numeric : requireNumeric column .number = .ok kinds) :
    share.apply table =
      table.placeGroups share.groups share.outputColumn fun rows =>
        .ok (shareGroup column rows) := by
  simp only [apply, found, numeric, Table.placeGroups]
  cases table.groupRows share.groups with
  | error error => rfl
  | ok groups =>
      have placed : groups.mapM (fun rows => .ok (shareGroup column rows)) =
          (.ok (groups.map (shareGroup column)) : Except StepError (List (List (Nat × Cell)))) :=
        mapM_eq_ok_map fun _ _ => rfl
      simp only [placed, List.flatMap_def]

/-- The shares of a group are those of a table of its own. -/
theorem Share.restricts_apply {share : Share} (wellFormed : table.WellFormed)
    (applied : share.apply table = .ok output) :
    ∃ groups, table.groupRows share.groups = .ok groups ∧ ∀ rows ∈ groups, ∃ part,
      Share.apply { share with groups := [] } (table.takeRows rows) = .ok part ∧
        output.Restricts part share.outputColumn rows := by
  cases found : table.column share.column with
  | error error =>
      rw [apply, found] at applied
      cases applied
  | ok column =>
      cases numeric : requireNumeric column .number with
      | error error =>
          simp only [apply, found, numeric] at applied
          cases applied
      | ok kinds =>
          rw [apply_eq share found numeric] at applied
          obtain ⟨groups, grouped, each⟩ :=
            rowWise_shareGroup.restricts_placeGroups wellFormed applied
          refine ⟨groups, grouped, ?_⟩
          intro rows member
          obtain ⟨part, placed, restricts⟩ := each rows member
          have foundRows := Table.column_takeRows found rows
          have numericRows := requireNumeric_takeRows numeric rows
          exact ⟨part, (apply_eq { share with groups := [] } foundRows numericRows).trans placed,
            restricts⟩

namespace RunningSum

theorem apply_eq (running : RunningSum) {kinds : List Kind}
    (found : table.column running.column = .ok column)
    (numeric : requireNumeric column .number = .ok kinds) :
    running.apply table =
      table.placeGroups running.groups running.outputColumn
        (sumGroup (kinds.contains .float) column) := by
  simp only [apply, found, numeric]
  rfl

/-- The only failure of a sum of integers is an overflow. -/
theorem eq_overflow_of_sumInts {name : String} {total : Int} {cells : List Cell} {error : StepError}
    (failed : sumInts name total cells = .error error) :
    error = .failed (.runningSumOverflow name) := by
  fun_induction sumInts name total cells with
  | case1 => cases failed
  | case2 =>
      cases failed
      rfl
  | case3 total value rest sum fits deeper failedDeeper ih =>
      cases failed
      exact ih failedDeeper
  | case4 => cases failed
  | case5 total cell rest noInteger deeper failedDeeper ih =>
      cases failed
      exact ih failedDeeper
  | case6 => cases failed

/-- The running sums of integers need no float, so in a group without floats their only failure is
an overflow. -/
theorem apply_ungrouped_of_not_holdsFloat {running : RunningSum} (wellFormed : table.WellFormed)
    (someRows : table.rowCount ≠ 0) {kinds : List Kind}
    (found : table.column running.column = .ok column)
    (numeric : requireNumeric column .number = .ok kinds)
    (noFloat : ¬ table.HoldsFloat running.column) :
    (∃ part, RunningSum.apply { running with groups := [] } table = .ok part) ∨
      RunningSum.apply { running with groups := [] } table =
        .error (.failed (.runningSumOverflow running.column)) := by
  have integers : kinds.contains .float = false := by
    rw [Table.holdsFloat_iff found, (requireNumeric_eq_ok_iff.1 numeric).2] at noFloat
    exact Bool.eq_false_iff.2 noFloat
  rw [apply_eq { running with groups := [] } found numeric, Table.placeGroups_nil someRows,
    sumGroup, integers]
  cases summed : sumInts column.name 0 ((List.range table.rowCount).map column.cellAt) with
  | error error =>
      right
      rw [eq_overflow_of_sumInts summed, Table.name_of_column found]
      rfl
  | ok sums =>
      left
      obtain ⟨part, added, -⟩ := wellFormed.exists_withColumn
        ⟨_, scatter table.rowCount ((List.range table.rowCount).zip sums)⟩ (length_scatter ..)
      exact ⟨part, added⟩

/-- The running sums of a group are those of a table of its own if it has a float in case the whole
column has one. In the remaining case its sums are integers there, which can overflow. -/
theorem restricts_apply {running : RunningSum} (wellFormed : table.WellFormed)
    (applied : running.apply table = .ok output) :
    ∃ groups, table.groupRows running.groups = .ok groups ∧ ∀ rows ∈ groups,
      ((table.HoldsFloat running.column → (table.takeRows rows).HoldsFloat running.column) ∧
        ∃ part, RunningSum.apply { running with groups := [] } (table.takeRows rows) = .ok part ∧
          output.Restricts part running.outputColumn rows) ∨
      (table.HoldsFloat running.column ∧ ¬ (table.takeRows rows).HoldsFloat running.column ∧
        ((∃ part, RunningSum.apply { running with groups := [] } (table.takeRows rows) = .ok part) ∨
          RunningSum.apply { running with groups := [] } (table.takeRows rows) =
            .error (.failed (.runningSumOverflow running.column)))) := by
  cases found : table.column running.column with
  | error error =>
      rw [apply, found] at applied
      cases applied
  | ok column =>
      cases numeric : requireNumeric column .number with
      | error error =>
          simp only [apply, found, numeric] at applied
          cases applied
      | ok kinds =>
          rw [apply_eq running found numeric] at applied
          obtain ⟨groups, grouped, each⟩ :=
            (rowWise_sumGroup (kinds.contains .float)).restricts_placeGroups wellFormed applied
          refine ⟨groups, grouped, ?_⟩
          intro rows member
          have foundRows := Table.column_takeRows found rows
          have numericRows := requireNumeric_takeRows numeric rows
          by_cases alike :
              table.HoldsFloat running.column → (table.takeRows rows).HoldsFloat running.column
          · left
            have sameKind :
                (column.takeRows rows).kinds.contains .float = kinds.contains .float := by
              rw [Table.holdsFloat_iff found, Table.holdsFloat_iff foundRows,
                (requireNumeric_eq_ok_iff.1 numeric).2] at alike
              rw [Bool.eq_iff_iff]
              refine ⟨?_, alike⟩
              rw [← (requireNumeric_eq_ok_iff.1 numeric).2, List.contains_iff_mem,
                List.contains_iff_mem]
              exact Column.mem_kinds_of_mem_takeRows
            obtain ⟨part, placed, restricts⟩ := each rows member
            refine ⟨alike, part, ?_, restricts⟩
            rw [apply_eq { running with groups := [] } foundRows numericRows, sameKind]
            exact placed
          · right
            obtain ⟨holds, lacks⟩ := Classical.not_imp.1 alike
            exact ⟨holds, lacks, apply_ungrouped_of_not_holdsFloat (wellFormed.takeRows rows)
              (Table.rowCount_takeRows_ne_zero grouped member) foundRows numericRows lacks⟩

end RunningSum

end TableFlow
