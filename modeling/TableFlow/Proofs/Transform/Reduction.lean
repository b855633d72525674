import TableFlow.Proofs.Table.ByRows
import TableFlow.Proofs.Transform.Placement
import TableFlow.Transform.Statistics

/-!
# Aggregates and statistics of groups

Aggregates and statistics reduce the cells of each group to one cell.  A function sees the cells of
the group only, and the check for numbers, which is made on the whole column, holds in every group.
So the row of a group in the result is the one row of the result for a table of its own.

Main statements: `Aggregate.restricts_apply` and `Statistics.restricts_apply`.
-/

namespace TableFlow

variable {table output : Table} {column : Column}
variable {groups : List (List Nat)} {rows : List Nat} {index : Nat}

/-- A column in one of its rows. -/
theorem Column.takeRows_singleton {cell : Cell} (found : column.cells[index]? = some cell) :
    column.takeRows [index] = ⟨column.name, [cell]⟩ := by
  rw [takeRows, List.map_singleton, cellAt, List.getD_eq_getElem?_getD, found, Option.getD_some]

/-- One row of some columns makes a table, whatever else the columns were put to. -/
theorem Table.exists_restricts_of_put {added columns : List Column}
    (built : Table.ofColumns (added.foldl Table.putColumn columns) = .ok output)
    (inside : ∀ column ∈ added, index < column.cells.length) :
    ∃ part,
      Table.ofColumns ((added.map fun column => column.takeRows [index]).foldl Table.putColumn []) =
        .ok part ∧
      ∀ name ∈ added.map Column.name, output.Restricts part name [index] := by
  have lengths (column : Column) (member : column ∈
      (added.map fun column => column.takeRows [index]).foldl Table.putColumn []) :
      column.cells.length = 1 := by
    rcases Table.mem_foldl_putColumn member with inAdded | inNothing
    · obtain ⟨source, -, rfl⟩ := List.mem_map.1 inAdded
      rw [Column.length_cells_takeRows, List.length_singleton]
    · cases inNothing
  obtain ⟨part, builtPart, columnsPart, -⟩ :=
    Table.exists_ofColumns (Table.nodup_names_foldl_putColumn _ [] List.nodup_nil) lengths
  refine ⟨part, builtPart, ?_⟩
  rw [List.forall_mem_map]
  intro column member
  -- The last of the columns put under the name is found on both sides.
  obtain ⟨last, found⟩ : ∃ last,
      added.reverse.find? (fun other => other.name == column.name) = some last := by
    rw [← Option.isSome_iff_exists, List.find?_isSome]
    exact ⟨column, List.mem_reverse.2 member, beq_self_eq_true _⟩
  have inAdded := List.mem_reverse.1 (List.mem_of_find?_eq_some found)
  refine ⟨last, Table.column_of_columns (Table.ofColumns_eq_ok_iff.1 built).1 ?_, ?_,
    Table.column_of_columns columnsPart ?_⟩
  · rw [Table.find?_foldl_putColumn, found, Option.some_or]
  · simpa using inside last inAdded
  · rw [Table.find?_foldl_putColumn, ← List.map_reverse, List.find?_map]
    exact (congrArg (fun found => (found.map fun column => column.takeRows [index]).or none) found)

/-- One row of some columns of a table makes a table. -/
theorem Table.exists_restricts_of_mem (wellFormed : output.WellFormed) {columns : List Column}
    (members : ∀ column ∈ columns, column ∈ output.columns)
    (nodup : (columns.map Column.name).Nodup)
    (inside : ∀ column ∈ columns, index < column.cells.length) :
    ∃ part, Table.ofColumns (columns.map fun column => column.takeRows [index]) = .ok part ∧
      ∀ name ∈ columns.map Column.name, output.Restricts part name [index] := by
  have nodupTaken :
      ((columns.map fun column => column.takeRows [index]).map Column.name).Nodup := by
    rwa [List.map_map]
  have lengths (column : Column)
      (member : column ∈ columns.map fun column => column.takeRows [index]) :
      column.cells.length = 1 := by
    obtain ⟨source, -, rfl⟩ := List.mem_map.1 member
    rw [Column.length_cells_takeRows, List.length_singleton]
  obtain ⟨part, built, columnsPart, -⟩ := Table.exists_ofColumns nodupTaken lengths
  refine ⟨part, built, ?_⟩
  rw [List.forall_mem_map]
  intro column member
  refine ⟨column, wellFormed.column_of_mem (members column member), ?_,
    Table.column_of_columns columnsPart (find?_of_mem nodupTaken (List.mem_map_of_mem member))⟩
  simpa using inside column member

namespace AggregateFunction

theorem apply_takeRows (function : AggregateFunction) (column : Column) (rows : List Nat) :
    function.apply (column.takeRows rows) (List.range rows.length) =
      function.apply column rows := by
  rw [apply, apply, Column.map_cellAt_takeRows]

theorem checkInput_takeRows {function : AggregateFunction}
    (checked : function.checkInput column = .ok ()) (rows : List Nat) :
    function.checkInput (column.takeRows rows) = .ok () := by
  cases function
  case sum | avg =>
    simp only [checkInput] at checked ⊢
    split at checked
    · cases checked
    · rename_i kinds numeric
      rw [requireNumeric_takeRows numeric rows]
  all_goals rfl

end AggregateFunction

namespace Aggregate

/-- The result of a function for a group is its result for a table of its own. -/
theorem reduceGroups_takeRows {function : AggregateFunction} {source : String} {cells : List Cell}
    (reduced : reduceGroups table groups function source = .ok cells) :
    cells.length = groups.length ∧
      ∀ (index : Nat) (rows : List Nat), groups[index]? = some rows → ∃ cell,
        cells[index]? = some cell ∧
          reduceGroups (table.takeRows rows) [List.range rows.length] function source =
            .ok [cell] := by
  rw [reduceGroups] at reduced
  split at reduced
  · cases reduced
  · rename_i column found
    split at reduced
    · cases reduced
    · rename_i checked
      obtain ⟨value, each, rfl⟩ := exists_of_mapM_eq_ok .null reduced
      refine ⟨List.length_map .., ?_⟩
      intro index rows atIndex
      refine ⟨value rows, by rw [List.getElem?_map, atIndex, Option.map_some], ?_⟩
      simp only [reduceGroups, Table.column_takeRows found rows,
        AggregateFunction.checkInput_takeRows checked rows]
      apply mapM_singleton_eq_ok
      rw [AggregateFunction.apply_takeRows]
      exact each rows (List.mem_of_getElem? atIndex)

/-- The result columns of an aggregation for a group are those for a table of its own. -/
theorem resultColumns_takeRows {aggregation : Aggregation} {results : List Column}
    (computed : resultColumns table groups aggregation = .ok results) :
    results.map Column.name = (aggregation.columns.zip aggregation.newColumns).map Prod.snd ∧
      (∀ column ∈ results, column.cells.length = groups.length) ∧
      ∀ (index : Nat) (rows : List Nat), groups[index]? = some rows →
        resultColumns (table.takeRows rows) [List.range rows.length] aggregation =
          .ok (results.map fun column => column.takeRows [index]) := by
  rw [resultColumns] at computed
  obtain ⟨value, each, rfl⟩ := exists_of_mapM_eq_ok ⟨"", []⟩ computed
  have reduced (pair : String × String)
      (member : pair ∈ aggregation.columns.zip aggregation.newColumns) :
      ∃ cells, reduceGroups table groups aggregation.function pair.1 = .ok cells ∧
        value pair = ⟨pair.2, cells⟩ := by
    obtain ⟨source, target⟩ := pair
    have computedPair := each (source, target) member
    simp only at computedPair
    split at computedPair
    · cases computedPair
    · rename_i cells reduced
      exact ⟨cells, reduced, (Except.ok.inj computedPair).symm⟩
  refine ⟨?_, ?_, ?_⟩
  · rw [List.map_map]
    apply List.map_congr_left
    intro pair member
    obtain ⟨cells, -, valueEq⟩ := reduced pair member
    rw [Function.comp_apply, valueEq]
  · rw [List.forall_mem_map]
    intro pair member
    obtain ⟨cells, reducedPair, valueEq⟩ := reduced pair member
    rw [valueEq]
    exact (reduceGroups_takeRows reducedPair).1
  · intro index rows atIndex
    rw [resultColumns, List.map_map]
    apply mapM_eq_ok_map
    intro pair member
    obtain ⟨cells, reducedPair, valueEq⟩ := reduced pair member
    obtain ⟨cell, atCell, reducedRows⟩ := (reduceGroups_takeRows reducedPair).2 index rows atIndex
    rw [Function.comp_apply, valueEq]
    simp only [reducedRows]
    rw [Column.takeRows_singleton atCell]

/-- The names of the result columns. -/
def targets (aggregate : Aggregate) : List String :=
  aggregate.aggregations.flatMap fun aggregation =>
    (aggregation.columns.zip aggregation.newColumns).map Prod.snd

/-- The result columns for a group are those for a table of its own. -/
theorem results_takeRows {aggregate : Aggregate} {results : List (List Column)}
    (traversed : aggregate.aggregations.mapM (resultColumns table groups) = .ok results) :
    results.flatten.map Column.name = aggregate.targets ∧
      (∀ column ∈ results.flatten, column.cells.length = groups.length) ∧
      ∀ (index : Nat) (rows : List Nat), groups[index]? = some rows → ∃ parts,
        aggregate.aggregations.mapM
            (resultColumns (table.takeRows rows) [List.range rows.length]) = .ok parts ∧
          parts.flatten = results.flatten.map fun column => column.takeRows [index] := by
  obtain ⟨value, each, rfl⟩ := exists_of_mapM_eq_ok [] traversed
  refine ⟨?_, ?_, ?_⟩
  · rw [List.map_flatten, List.map_map, targets, List.flatMap_def]
    congr 1
    apply List.map_congr_left
    intro aggregation member
    exact (resultColumns_takeRows (each aggregation member)).1
  · intro column member
    rw [← List.flatMap_def] at member
    obtain ⟨aggregation, inAggregations, inResults⟩ := List.mem_flatMap.1 member
    exact (resultColumns_takeRows (each aggregation inAggregations)).2.1 column inResults
  · intro index rows atIndex
    refine ⟨_, mapM_eq_ok_map fun aggregation member =>
      (resultColumns_takeRows (each aggregation member)).2.2 index rows atIndex, ?_⟩
    rw [List.map_flatten, List.map_map]
    rfl

/-- If there are groups, they are the groups to aggregate. -/
theorem groups_of_groupRows {aggregate : Aggregate}
    (grouped : table.groupRows aggregate.keys = .ok groups) (occupied : groups ≠ []) :
    aggregate.groups table = .ok groups := by
  have notEmpty : groups.isEmpty = false := List.isEmpty_eq_false_iff.2 occupied
  simp [Aggregate.groups, grouped, notEmpty]

/-- The row of a group in the result columns is the row of the result for a table of its own. -/
theorem restricts_apply {aggregate : Aggregate} (wellFormed : table.WellFormed)
    (applied : aggregate.apply table = .ok output) :
    ∃ groups, table.groupRows aggregate.keys = .ok groups ∧
      ∀ (index : Nat) (rows : List Nat), groups[index]? = some rows → ∃ part,
        Aggregate.apply { aggregate with keys := [] } (table.takeRows rows) = .ok part ∧
          (aggregate.keepRows = false → ∀ name ∈ aggregate.targets,
            output.Restricts part name [index]) := by
  cases grouped : table.groupRows aggregate.keys with
  | error error =>
      rw [apply, Aggregate.groups, grouped] at applied
      cases applied
  | ok groups =>
      refine ⟨groups, rfl, ?_⟩
      intro index rows atIndex
      have member := List.mem_of_getElem? atIndex
      rw [apply, groups_of_groupRows grouped (List.ne_nil_of_mem member)] at applied
      simp only at applied
      split at applied
      · cases applied
      · rename_i results traversed
        obtain ⟨names, lengths, atGroup⟩ := results_takeRows traversed
        obtain ⟨parts, traversedRows, partsEq⟩ := atGroup index rows atIndex
        have groupsRows : Aggregate.groups { aggregate with keys := [] } (table.takeRows rows) =
            .ok [List.range rows.length] :=
          groups_of_groupRows
            (Table.groupRows_nil_of_pos (Table.rowCount_takeRows_ne_zero grouped member)) (by simp)
        rw [apply, groupsRows]
        simp only [traversedRows, partsEq]
        cases keepRows : aggregate.keepRows with
        | true =>
            have spreads (column : Column) (spread : column ∈
                (results.flatten.map fun column => column.takeRows [index]).map fun column =>
                  { column with
                    cells := spread rows.length [List.range rows.length] column.cells }) :
                column.cells.length = rows.length := by
              obtain ⟨source, -, rfl⟩ := List.mem_map.1 spread
              exact length_scatter ..
            obtain ⟨part, added⟩ := (wellFormed.takeRows rows).exists_withColumns _ spreads
            exact ⟨part, added, by simp⟩
        | false =>
            rw [keepRows] at applied
            simp only [Bool.false_eq_true, if_false] at applied ⊢
            split at applied
            · cases applied
            · rename_i keys foundKeys
              have inside (column : Column) (inResults : column ∈ results.flatten) :
                  index < column.cells.length := by
                rw [lengths column inResults]
                exact (List.getElem?_eq_some_iff.1 atIndex).1
              obtain ⟨part, built, restricts⟩ := Table.exists_restricts_of_put applied inside
              rw [names] at restricts
              exact ⟨part, built, fun _ => restricts⟩

end Aggregate

/-! ## Statistics -/

namespace Statistics

/-- The names of the columns of statistics and quantiles. -/
def targets (statistics : Statistics) : List String :=
  statistics.statistics.map Statistic.name ++ statistics.quantiles.map Quantile.columnName

/-- One row of a column of quantiles is about one sample. -/
theorem quantileColumn_takeRows {quantile : Quantile} {samples : List (List Cell)}
    (computed : quantile.column samples = .ok column) :
    column.name = quantile.columnName ∧ column.cells.length = samples.length ∧
      ∀ (index : Nat) (sample : List Cell), samples[index]? = some sample →
        quantile.column [sample] = .ok (column.takeRows [index]) := by
  obtain ⟨cells, traversed, rfl⟩ := map_eq_ok_iff.1 computed
  obtain ⟨value, each, rfl⟩ := exists_of_mapM_eq_ok .null traversed
  refine ⟨rfl, List.length_map .., ?_⟩
  intro index sample atIndex
  refine map_eq_ok_iff.2 ⟨[value sample], ?_, ?_⟩
  · exact mapM_singleton_eq_ok (each sample (List.mem_of_getElem? atIndex))
  · rw [Column.takeRows_singleton]
    rw [List.getElem?_map, atIndex, Option.map_some]

/-- One row of the result columns is about one sample. -/
theorem resultColumns_takeRows {statistics : Statistics} {samples : List (List Cell)}
    {results : List Column} (computed : statistics.resultColumns samples = .ok results) :
    results.map Column.name = statistics.targets ∧
      (∀ column ∈ results, column.cells.length = samples.length) ∧
      ∀ (index : Nat) (sample : List Cell), samples[index]? = some sample →
        statistics.resultColumns [sample] =
          .ok (results.map fun column => column.takeRows [index]) := by
  obtain ⟨quantileColumns, traversed, rfl⟩ := map_eq_ok_iff.1 computed
  obtain ⟨value, each, rfl⟩ := exists_of_mapM_eq_ok ⟨"", []⟩ traversed
  have columnOf (quantile : Quantile) (member : quantile ∈ statistics.quantiles) :=
    quantileColumn_takeRows (each quantile member)
  refine ⟨?_, ?_, ?_⟩
  · rw [List.map_append, List.map_map, List.map_map, targets]
    exact congrArg (_ ++ ·) (List.map_congr_left fun quantile member =>
      (columnOf quantile member).1)
  · simp only [List.forall_mem_append, List.forall_mem_map]
    exact ⟨fun statistic _ => List.length_map ..,
      fun quantile member => (columnOf quantile member).2.1⟩
  · intro index sample atIndex
    refine map_eq_ok_iff.2 ⟨_, mapM_eq_ok_map fun quantile member =>
      (columnOf quantile member).2.2 index sample atIndex, ?_⟩
    rw [List.map_append, List.map_map, List.map_map]
    congr 1
    apply List.map_congr_left
    intro statistic _
    rw [Function.comp_apply, Column.takeRows_singleton]
    · rfl
    · rw [List.getElem?_map, atIndex, Option.map_some]

theorem filled_takeRows (column : Column) (rows : List Nat) :
    Cell.filled ((List.range rows.length).map (column.takeRows rows).cellAt) =
      Cell.filled (rows.map column.cellAt) := by
  rw [Column.map_cellAt_takeRows]

theorem apply_eq (statistics : Statistics) {kinds : List Kind} {keys results : List Column}
    (found : table.column statistics.column = .ok column)
    (numeric : requireNumeric column .number = .ok kinds)
    (grouped : statistics.groups table = .ok groups)
    (foundKeys : table.columnsOf statistics.keys = .ok keys)
    (computed : statistics.resultColumns
      (groups.map fun rows => Cell.filled (rows.map column.cellAt)) = .ok results) :
    statistics.apply table =
      Table.ofColumns ((keys.map fun key => key.takeRows (firstRows groups)) ++ results) := by
  simp only [apply, found, numeric, grouped, foundKeys, computed]

/-- If there are groups, they are the groups to look at. -/
theorem groups_of_groupRows {statistics : Statistics}
    (grouped : table.groupRows statistics.keys = .ok groups) (occupied : groups ≠ []) :
    statistics.groups table = .ok groups := by
  have notEmpty : groups.isEmpty = false := List.isEmpty_eq_false_iff.2 occupied
  simp [Statistics.groups, grouped, notEmpty]

theorem exists_of_apply {statistics : Statistics} (applied : statistics.apply table = .ok output) :
    ∃ column kinds groups keys results, table.column statistics.column = .ok column ∧
      requireNumeric column .number = .ok kinds ∧ statistics.groups table = .ok groups ∧
      table.columnsOf statistics.keys = .ok keys ∧
      statistics.resultColumns (groups.map fun rows => Cell.filled (rows.map column.cellAt)) =
        .ok results := by
  rw [apply] at applied
  split at applied
  · cases applied
  · rename_i column found
    split at applied
    · cases applied
    · rename_i kinds numeric
      split at applied
      · cases applied
      · rename_i groups grouped
        split at applied
        · cases applied
        · rename_i keys foundKeys
          split at applied
          · cases applied
          · rename_i results computed
            exact ⟨column, kinds, groups, keys, results, found, numeric, grouped, foundKeys,
              computed⟩

/-- The row of a group in the result columns is the row of the result for a table of its own. -/
theorem restricts_apply {statistics : Statistics} (applied : statistics.apply table = .ok output) :
    ∃ groups, table.groupRows statistics.keys = .ok groups ∧
      ∀ (index : Nat) (rows : List Nat), groups[index]? = some rows → ∃ part,
        Statistics.apply { statistics with keys := [] } (table.takeRows rows) = .ok part ∧
          ∀ name ∈ statistics.targets, output.Restricts part name [index] := by
  obtain ⟨column, kinds, used, keys, results, found, numeric, usedEq, foundKeys, computed⟩ :=
    exists_of_apply applied
  cases grouped : table.groupRows statistics.keys with
  | error error =>
      rw [Statistics.groups, grouped] at usedEq
      cases usedEq
  | ok groups =>
      refine ⟨groups, rfl, ?_⟩
      intro index rows atIndex
      have member := List.mem_of_getElem? atIndex
      rw [apply_eq statistics found numeric usedEq foundKeys computed,
        Table.ofColumns_eq_ok_iff] at applied
      obtain ⟨columnsEq, -, wellFormed⟩ := applied
      rw [groups_of_groupRows grouped (List.ne_nil_of_mem member), Except.ok.injEq] at usedEq
      subst usedEq
      obtain ⟨names, lengths, ofSample⟩ := resultColumns_takeRows computed
      have sampleAt : (groups.map fun rows => Cell.filled (rows.map column.cellAt))[index]? =
          some (Cell.filled (rows.map column.cellAt)) := by
        rw [List.getElem?_map, atIndex, Option.map_some]
      have groupsRows : Statistics.groups { statistics with keys := [] } (table.takeRows rows) =
          .ok [List.range rows.length] :=
        groups_of_groupRows
          (Table.groupRows_nil_of_pos (Table.rowCount_takeRows_ne_zero grouped member)) (by simp)
      have computedRows : Statistics.resultColumns { statistics with keys := [] }
          ([List.range rows.length].map fun rows' =>
            Cell.filled (rows'.map (column.takeRows rows).cellAt)) =
          .ok (results.map fun column => column.takeRows [index]) := by
        rw [List.map_singleton, filled_takeRows]
        exact ofSample index _ sampleAt
      have appliedRows := apply_eq { statistics with keys := [] } (Table.column_takeRows found rows)
        (requireNumeric_takeRows numeric rows) groupsRows Table.columnsOf_nil computedRows
      rw [List.map_nil, List.nil_append] at appliedRows
      have nodup := wellFormed.nodup_names
      rw [Table.names, columnsEq, List.map_append, List.nodup_append] at nodup
      obtain ⟨part, built, restricts⟩ := Table.exists_restricts_of_mem wellFormed
        (fun column inResults => columnsEq ▸ List.mem_append_right _ inResults) nodup.2.1
        (fun column inResults => (lengths column inResults).symm ▸
          (List.getElem?_eq_some_iff.1 sampleAt).1)
      rw [names] at restricts
      exact ⟨part, appliedRows.trans built, restricts⟩

end Statistics

end TableFlow
