import TableFlow.Proofs.Transform.Aggregate
import TableFlow.Proofs.Transform.Functions

/-!
# Counts and extremes of groups

An aggregate and statistics both give the count, the least and the greatest cell of each group.
Both are measured by one walk over the cells of a group that passes over the empty ones.  The walk
starts with no cell in mind, and a cell replaces the one in mind only if it compares with it as
wanted.  So the first of equal cells stays, and so does a cell that compares with none; every choice
depends on the order of the cells, and both tables make the same ones.

Main statement: `exists_apply_summary`.
-/

namespace TableFlow

/-- What a walk over some cells has found: how many there are, and the ones it has in mind. -/
structure Tally where
  count : Nat
  least : Option Cell
  greatest : Option Cell

namespace Tally

/-- Meet one more cell; an empty one is passed over. -/
def add (tally : Tally) (cell : Cell) : Tally :=
  if cell.isNull then tally
  else
    { count := tally.count + 1
      least := Cell.keep .lt tally.least cell
      greatest := Cell.keep .gt tally.greatest cell }

/-- The tally of some cells, met in their order. -/
def ofCells (cells : List Cell) : Tally :=
  cells.foldl add ⟨0, none, none⟩

def countCell (tally : Tally) : Cell :=
  .integer (Int64.ofNat tally.count)

/-- The least cell, or an empty one if none was met. -/
def leastCell (tally : Tally) : Cell :=
  tally.least.getD .null

/-- The greatest cell, or an empty one if none was met. -/
def greatestCell (tally : Tally) : Cell :=
  tally.greatest.getD .null

theorem add_null (tally : Tally) : tally.add .null = tally :=
  rfl

theorem add_of_ne_null {cell : Cell} (filled : cell ≠ .null) (tally : Tally) :
    tally.add cell =
      ⟨tally.count + 1, Cell.keep .lt tally.least cell, Cell.keep .gt tally.greatest cell⟩ := by
  rw [add, Cell.isNull_eq_false_iff.2 filled, if_neg Bool.false_ne_true]

/-- A walk over all cells finds what three walks over the cells that are not empty find. -/
theorem foldl_add (tally : Tally) (cells : List Cell) :
    cells.foldl add tally =
      { count := tally.count + (Cell.filled cells).length
        least := (Cell.filled cells).foldl (Cell.keep .lt) tally.least
        greatest := (Cell.filled cells).foldl (Cell.keep .gt) tally.greatest } := by
  induction cells generalizing tally with
  | nil => rfl
  | cons cell rest ih =>
      rw [List.foldl_cons, ih]
      by_cases empty : cell = .null
      · rw [empty, add_null, Cell.filled_null]
      · rw [add_of_ne_null empty, Cell.filled_cons empty, List.length_cons, List.foldl_cons,
          List.foldl_cons]
        simp only [Nat.add_assoc, Nat.add_comm 1]

theorem countCell_ofCells (cells : List Cell) :
    (ofCells cells).countCell = .integer (Int64.ofNat (Cell.filled cells).length) := by
  rw [countCell, ofCells, foldl_add, Nat.zero_add]

theorem leastCell_ofCells (cells : List Cell) :
    (ofCells cells).leastCell =
      ((Cell.filled cells).foldl (Cell.keep .lt) none).getD .null := by
  rw [leastCell, ofCells, foldl_add]

theorem greatestCell_ofCells (cells : List Cell) :
    (ofCells cells).greatestCell =
      ((Cell.filled cells).foldl (Cell.keep .gt) none).getD .null := by
  rw [greatestCell, ofCells, foldl_add]

end Tally

/-- A walk that starts with the first cell ends with the cell of one that starts with none in
mind. -/
theorem Statistic.extreme_eq_keep (wanted : Ordering) (cells : List Cell) :
    extreme wanted cells = (cells.foldl (Cell.keep wanted) none).getD .null := by
  cases cells with
  | nil => rfl
  | cons first rest =>
      rw [List.foldl_cons, Cell.keep, Cell.foldl_keep_some]
      rfl

/-- The count and the extremes of a column, as statistics. -/
def Statistics.summary (name : String) (keys : List String) : Statistics :=
  { column := name, keys, statistics := [.count, .min, .max], quantiles := [] }

/-- The count and the extremes of a column, as an aggregate. -/
def Aggregate.summary (name : String) (keys : List String) : Aggregate :=
  { keys
    aggregations :=
      [⟨[name], .count, ["count"]⟩, ⟨[name], .min, ["min"]⟩, ⟨[name], .max, ["max"]⟩]
    keepRows := false }

namespace Table

variable {table output : Table} {name : String} {column : Column} {keys : List String}
variable {groups : List (List Nat)}

/-- The tally of the cells of some rows. -/
def tally (table : Table) (name : String) (rows : List Nat) : Tally :=
  .ofCells (rows.map fun row => table.cellAt row name)

/-- The tallies of some groups, in columns. -/
def tallyColumns (table : Table) (name : String) (groups : List (List Nat)) : List Column :=
  [⟨"count", groups.map fun rows => (table.tally name rows).countCell⟩,
    ⟨"min", groups.map fun rows => (table.tally name rows).leastCell⟩,
    ⟨"max", groups.map fun rows => (table.tally name rows).greatestCell⟩]

/-- The groups that have a line in a summary; without keys even a table without rows has one. -/
def lines (keys : List String) (groups : List (List Nat)) : List (List Nat) :=
  if groups = [] ∧ keys = [] then [[]] else groups

/-- A summary of some groups of rows has a line for each of them, with the key of its first row and
its tally. -/
structure Summarizes (output table : Table) (name : String) (keys : List String)
    (groups : List (List Nat)) : Prop where
  names_eq : output.names = keys ++ ["count", "min", "max"]
  rowCount_eq : output.rowCount = groups.length
  row_eq : ∀ (line : Nat) (rows : List Nat), groups[line]? = some rows →
    output.row line = keys.map (table.cellAt (rows.headD 0)) ++
      [(table.tally name rows).countCell, (table.tally name rows).leastCell,
        (table.tally name rows).greatestCell]

theorem tally_of_column (found : table.column name = .ok column) (rows : List Nat) :
    table.tally name rows = .ofCells (rows.map column.cellAt) := by
  rw [tally, funext (cellAt_eq_of_column found)]

/-- The columns of the statistics are those of the tallies. -/
theorem resultColumns_summary (keys : List String) (found : table.column name = .ok column)
    (groups : List (List Nat)) :
    (Statistics.summary name keys).resultColumns
        (groups.map fun rows => Cell.filled (rows.map column.cellAt)) =
      .ok (table.tallyColumns name groups) := by
  simp only [tallyColumns, tally_of_column found, Tally.countCell_ofCells, Tally.leastCell_ofCells,
    Tally.greatestCell_ofCells, ← Statistic.extreme_eq_keep, Statistics.resultColumns,
    Statistics.summary, List.map_cons, List.map_nil, List.map_map]
  rfl

/-- The columns of the parts of the aggregate are those of the tallies. -/
theorem resultColumn_summary (keys : List String) (found : table.column name = .ok column)
    (groups : List (List Nat)) :
    ((Aggregate.summary name keys).parts.map fun part => part.resultColumn table groups) =
      table.tallyColumns name groups := by
  have result (function : AggregateFunction) (target : String) (cell : List Cell → Cell)
      (reduces : ∀ cells, function.reduce cells = .ok (cell cells)) :
      Aggregate.Part.result ⟨function, name, target⟩ table =
        fun rows => cell (rows.map column.cellAt) := by
    funext rows
    apply Aggregate.Part.result_eq found
    rw [AggregateFunction.apply, reduces]
  simp only [tallyColumns, tally_of_column found, Tally.countCell_ofCells, Tally.leastCell_ofCells,
    Tally.greatestCell_ofCells]
  rw [← result .count "count" _ AggregateFunction.reduce_count,
    ← result .min "min" _ AggregateFunction.reduce_min,
    ← result .max "max" _ AggregateFunction.reduce_max]
  rfl

/-- No part of the aggregate adds anything up, so none fails. -/
theorem computes_of_mem_summary (keys : List String) (found : table.column name = .ok column)
    (groups : List (List Nat)) :
    ∀ part ∈ (Aggregate.summary name keys).parts, part.Computes table groups := by
  have computes (function : AggregateFunction) (target : String)
      (adds : ¬ (function = .sum ∨ function = .avg)) :
      Aggregate.Part.Computes ⟨function, name, target⟩ table groups := by
    refine ⟨column, found, ?_, fun _ _ => AggregateFunction.exists_reduce_of_plain adds _⟩
    cases function with
    | sum => exact absurd (.inl rfl) adds
    | avg => exact absurd (.inr rfl) adds
    | _ => rfl
  have parts : (Aggregate.summary name keys).parts =
      [⟨.count, name, "count"⟩, ⟨.min, name, "min"⟩, ⟨.max, name, "max"⟩] := rfl
  rw [parts, List.forall_mem_cons, List.forall_mem_cons, List.forall_mem_singleton]
  exact ⟨computes .count "count" (by decide), computes .min "min" (by decide),
    computes .max "max" (by decide)⟩

/-- Both tables have a line for the same groups. -/
theorem groups_summary (name : String) (grouped : table.groupRows keys = .ok groups) :
    (Statistics.summary name keys).groups table = .ok (lines keys groups) ∧
      (Aggregate.summary name keys).groups table = .ok (lines keys groups) := by
  simp only [Statistics.groups, Aggregate.groups, Statistics.summary, Aggregate.summary, grouped,
    lines, Bool.not_false, Bool.and_true, Bool.and_eq_true, List.isEmpty_iff]
  split <;> exact ⟨rfl, rfl⟩

/-- The keys on a line are those of the first row of its group. -/
theorem keyAt_firstRows_lines {keyColumns : List Column}
    (foundKeys : table.columnsOf keys = .ok keyColumns)
    (grouped : table.groupRows keys = .ok groups) {line : Nat} {rows : List Nat}
    (atLine : (lines keys groups)[line]? = some rows) :
    keyAt (keyColumns.map fun key => key.takeRows (firstRows (lines keys groups))) line =
      keys.map (table.cellAt (rows.headD 0)) := by
  rw [← keyAt_of_columnsOf foundKeys, keyAt, List.map_map, keyAt]
  rw [lines] at atLine ⊢
  split at atLine
  · -- The line that stands for no rows has no key either.
    rename_i nothing
    rw [nothing.2, columnsOf_nil, Except.ok.injEq] at foundKeys
    rw [← foundKeys, List.map_nil, List.map_nil]
  · rename_i occupied
    rw [if_neg occupied]
    apply List.map_congr_left
    intro key _
    exact cellAt_takeRows_firstRows grouped atLine key

theorem map_name_tallyColumns {keyColumns : List Column}
    (foundKeys : table.columnsOf keys = .ok keyColumns) (name : String) (groups : List (List Nat)) :
    ((keyColumns.map fun key => key.takeRows (firstRows groups)) ++
        table.tallyColumns name groups).map Column.name = keys ++ ["count", "min", "max"] := by
  rw [List.map_append, List.map_map]
  exact congrArg (· ++ _) (map_name_of_columnsOf foundKeys)

/-- No tally has the name of a key or of another one, so none is written over. -/
theorem nodup_names_tallyColumns {keyColumns : List Column}
    (foundKeys : table.columnsOf keys = .ok keyColumns) (distinct : keys.Nodup)
    (free : ∀ key ∈ keys, key ∉ ["count", "min", "max"]) (name : String)
    (groups : List (List Nat)) :
    (((keyColumns.map fun key => key.takeRows (firstRows groups)) ++
      table.tallyColumns name groups).map Column.name).Nodup := by
  rw [map_name_tallyColumns foundKeys, List.nodup_append]
  refine ⟨distinct, by decide, ?_⟩
  intro key isKey target isTarget same
  exact free key isKey (same ▸ isTarget)

/-- Keys of some groups beside their tallies are a summary of them. -/
theorem summarizes_of_columns {keyColumns : List Column}
    (foundKeys : table.columnsOf keys = .ok keyColumns)
    (grouped : table.groupRows keys = .ok groups)
    (columnsEq : output.columns =
      (keyColumns.map fun key => key.takeRows (firstRows (lines keys groups))) ++
        table.tallyColumns name (lines keys groups))
    (rowCount_eq : output.rowCount = (lines keys groups).length) :
    output.Summarizes table name keys (lines keys groups) where
  names_eq := by rw [names, columnsEq, map_name_tallyColumns foundKeys]
  rowCount_eq := rowCount_eq
  row_eq := by
    intro line rows atLine
    have keysEq := keyAt_firstRows_lines foundKeys grouped atLine
    rw [keyAt] at keysEq
    rw [row, columnsEq, List.map_append, keysEq]
    simp only [tallyColumns, List.map_cons, List.map_nil, Column.cellAt_map atLine]

end Table

theorem requireNumeric_of_kinds {column : Column}
    (numeric : ∀ cell ∈ column.cells, cell.kind? ∈ [none, some .integer, some .float])
    (expected : Expectation) : requireNumeric column expected = .ok column.kinds := by
  rw [requireNumeric_eq_ok_iff]
  refine ⟨?_, rfl⟩
  intro kind member
  obtain ⟨cell, inColumn, ofKind⟩ := Column.mem_kinds.1 member
  have allowed := numeric cell inColumn
  rw [ofKind] at allowed
  cases kind <;> simp_all [Kind.isNumeric]

/-- Statistics and an aggregate give one table of the counts and the extremes of a column of
numbers: the summary of the groups by some keys. -/
theorem exists_apply_summary (table : Table) (name : String) (column : Column) (keys : List String)
    (wellFormed : table.WellFormed) (found : table.column? name = some column)
    (numeric : ∀ cell ∈ column.cells, cell.kind? ∈ [none, some .integer, some .float])
    (distinct : keys.Nodup) (known : ∀ key ∈ keys, key ∈ table.names)
    (free : ∀ key ∈ keys, key ∉ ["count", "min", "max"]) :
    ∃ output groups,
      (Statistics.summary name keys).apply table = .ok output ∧
        (Aggregate.summary name keys).apply table = .ok output ∧
        table.IsGroupedBy keys groups ∧
        output.Summarizes table name keys (Table.lines keys groups) := by
  have foundColumn := Table.column_eq_ok_iff.2 found
  obtain ⟨keyColumns, foundKeys⟩ :=
    Table.exists_columnsOf fun key member => Table.hasColumn_iff.2 (known key member)
  have grouped := Table.groupRows_of_columnsOf foundKeys
  obtain ⟨ofStatistics, ofAggregate⟩ := Table.groups_summary name grouped
  have computes := Table.computes_of_mem_summary keys foundColumn
  have statisticsEq := Statistics.apply_eq (Statistics.summary name keys) foundColumn
    (requireNumeric_of_kinds numeric .number) ofStatistics foundKeys
    (Table.resultColumns_summary keys foundColumn _)
  have aggregateEq := Aggregate.apply_eq_of_drops rfl ofAggregate (computes _) foundKeys
  rw [Table.resultColumn_summary keys foundColumn, Table.foldl_putColumn_of_nodup
    (Table.nodup_names_tallyColumns foundKeys distinct free name _)] at aggregateEq
  obtain ⟨output, applied⟩ := ((Aggregate.summary name keys).exists_apply_iff wellFormed distinct).2
    ⟨_, grouped, computes _⟩
  have built := aggregateEq.symm.trans applied
  have columnsEq := (Table.ofColumns_eq_ok_iff.1 built).1
  refine ⟨output, _, statisticsEq.trans built, applied, Table.isGroupedBy_groupBy foundKeys,
    Table.summarizes_of_columns foundKeys grouped columnsEq ?_⟩
  apply Aggregate.rowCount_of_drops applied rfl ofAggregate
  rw [columnsEq]
  simp [Table.tallyColumns]

/-- Gauges with a value that is no number, with equal numbers of two kinds, and with gaps, of which
one gauge has nothing else. -/
def gauges : Table :=
  { columns :=
      [⟨"gauge", [.text "a", .text "b", .text "a", .text "a", .text "b", .text "c"]⟩,
       ⟨"level",
        [.float (0.0 / 0.0), .integer 2, .integer 1, .null, .float 2.0, .null]⟩]
    rowCount := 6 }

/-- A float that is no number is an extreme if it comes first, the first one of equal numbers is
kept, and a gauge with gaps alone has none. -/
theorem exists_apply_summary_gauges :
    gauges.WellFormed ∧ ["gauge"].Nodup ∧
      (Statistics.summary "level" ["gauge"]).apply gauges = .ok
        ⟨[⟨"gauge", [.text "a", .text "b", .text "c"]⟩,
          ⟨"count", [.integer 2, .integer 2, .integer 0]⟩,
          ⟨"min", [.float (0.0 / 0.0), .integer 2, .null]⟩,
          ⟨"max", [.float (0.0 / 0.0), .integer 2, .null]⟩], 3⟩ ∧
      ∃ output groups,
        (Statistics.summary "level" ["gauge"]).apply gauges = .ok output ∧
          (Aggregate.summary "level" ["gauge"]).apply gauges = .ok output ∧
          gauges.IsGroupedBy ["gauge"] groups ∧
          output.Summarizes gauges "level" ["gauge"] (Table.lines ["gauge"] groups) := by
  have wellFormed : gauges.WellFormed := ⟨by decide, by decide⟩
  refine ⟨wellFormed, by decide, by rfl, ?_⟩
  exact exists_apply_summary gauges "level" _ ["gauge"] wellFormed rfl (by decide) (by decide)
    (by decide) (by decide)

end TableFlow
