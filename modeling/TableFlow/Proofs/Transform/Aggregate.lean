import TableFlow.Proofs.Table.Frame
import TableFlow.Proofs.Table.Refinement
import TableFlow.Proofs.Transform.Reduction

/-!
# The two tables of an aggregate

An aggregate has a row for each group, or it keeps the rows of the table and repeats the result of
each group in its rows.  Both tables are put together from the same parts, each a function with the
column it reads and the column it writes, and a part that writes over another one, or over a key,
does so in both.  So one table is the other one spread over the rows of the groups.  They can be
built for the same tables, although without rows and keys only one of them has a group.

Main statement: `Aggregate.keepRows_broadcasts`.
-/

namespace TableFlow

/-- Groups that are not empty have a first row each. -/
theorem firstRows_eq_map {groups : List (List Nat)} (nonempty : ∀ group ∈ groups, group ≠ []) :
    firstRows groups = groups.map fun group => group.headD 0 := by
  induction groups with
  | nil => rfl
  | cons group rest ih =>
      rw [List.forall_mem_cons] at nonempty
      cases group with
      | nil => exact absurd rfl nonempty.1
      | cons first later => exact congrArg (first :: ·) (ih nonempty.2)

theorem Table.cellAt_takeRows_firstRows {table : Table} {keys : List String}
    {groups : List (List Nat)} (grouped : table.groupRows keys = .ok groups) {index : Nat}
    {rows : List Nat} (atIndex : groups[index]? = some rows) (column : Column) :
    (column.takeRows (firstRows groups)).cellAt index = column.cellAt (rows.headD 0) := by
  rw [firstRows_eq_map (isPartition_groupRows grouped).nonempty, Column.takeRows, List.map_map]
  exact Column.cellAt_map atIndex _ _

namespace Aggregate

/-- A function with the column it reads and the column it writes. -/
structure Part where
  function : AggregateFunction
  source : String
  target : String

/-- The parts of an aggregation, in order. -/
def partsOf (aggregation : Aggregation) : List Part :=
  (aggregation.columns.zip aggregation.newColumns).map fun names =>
    ⟨aggregation.function, names.1, names.2⟩

/-- The parts of an aggregate, in order. -/
def parts (aggregate : Aggregate) : List Part :=
  aggregate.aggregations.flatMap partsOf

/-- The last part that writes a column. -/
def lastPart? (aggregate : Aggregate) (name : String) : Option Part :=
  aggregate.parts.reverse.find? fun part => part.target == name

variable {aggregate : Aggregate} {table output : Table} {groups : List (List Nat)}

namespace Part

/-- The result of a part for the rows of a group. -/
def result (part : Part) (table : Table) (rows : List Nat) : Cell :=
  ((table.column part.source).toOption.bind fun column =>
    (part.function.apply column rows).toOption).getD .null

/-- The column of a part has cells that its function can take, and no group makes it fail. -/
def Computes (part : Part) (table : Table) (groups : List (List Nat)) : Prop :=
  ∃ column, table.column part.source = .ok column ∧ part.function.checkInput column = .ok () ∧
    ∀ group ∈ groups, ∃ cell, part.function.apply column group = .ok cell

/-- The column that a part writes. -/
def resultColumn (part : Part) (table : Table) (groups : List (List Nat)) : Column :=
  ⟨part.target, groups.map (part.result table)⟩

theorem result_eq {part : Part} {column : Column} {rows : List Nat} {cell : Cell}
    (found : table.column part.source = .ok column)
    (applied : part.function.apply column rows = .ok cell) : part.result table rows = cell := by
  simp only [result, found, applied, Except.toOption, Option.bind_some, Option.getD_some]

theorem reduceGroups_eq_ok_iff (part : Part) (table : Table) (groups : List (List Nat))
    (cells : List Cell) :
    reduceGroups table groups part.function part.source = .ok cells ↔
      part.Computes table groups ∧ cells = groups.map (part.result table) := by
  cases found : table.column part.source with
  | error error => simp [reduceGroups, Computes, found]
  | ok column =>
      cases checked : part.function.checkInput column with
      | error error => simp [reduceGroups, Computes, found, checked]
      | ok done =>
          have resultEq : part.result table = fun rows =>
              (part.function.apply column rows).toOption.getD .null := by
            funext rows
            rw [result, found, Except.toOption, Option.bind_some]
          simp only [reduceGroups, found, checked, mapM_eq_ok_iff_toOption Cell.null, Computes,
            Except.ok.injEq, exists_eq_left', true_and, resultEq]

end Part

theorem resultColumns_eq_ok_iff (aggregation : Aggregation) (columns : List Column) :
    resultColumns table groups aggregation = .ok columns ↔
      (∀ part ∈ partsOf aggregation, part.Computes table groups) ∧
        columns = (partsOf aggregation).map fun part => part.resultColumn table groups := by
  rw [resultColumns, partsOf, List.forall_mem_map, List.map_map]
  apply mapM_eq_ok_iff_of
  rintro ⟨source, target⟩ _ column
  have reduced := Part.reduceGroups_eq_ok_iff ⟨aggregation.function, source, target⟩ table groups
  simp only at reduced ⊢
  split
  · rename_i error failed
    simp only [failed, reduceCtorEq, false_iff, not_and] at reduced ⊢
    intro computes
    exact absurd rfl (reduced _ computes)
  · rename_i cells computed
    obtain ⟨computes, cellsEq⟩ := (reduced cells).1 computed
    rw [Except.ok.injEq, cellsEq]
    exact ⟨fun same => ⟨computes, same.symm⟩, fun both => both.2.symm⟩

theorem flatten_map_partsOf {α : Type} (view : Part → α) :
    (aggregate.aggregations.map fun aggregation => (partsOf aggregation).map view).flatten =
      aggregate.parts.map view := by
  rw [parts, List.map_flatMap, List.flatMap_def]

/-- The result columns are those of the parts, in order. -/
theorem results_eq_ok_iff (results : List (List Column)) :
    aggregate.aggregations.mapM (resultColumns table groups) = .ok results ↔
      (∀ part ∈ aggregate.parts, part.Computes table groups) ∧
        results = aggregate.aggregations.map fun aggregation =>
          (partsOf aggregation).map fun part => part.resultColumn table groups := by
  rw [mapM_eq_ok_iff_of fun aggregation _ => resultColumns_eq_ok_iff aggregation, parts,
    List.forall_mem_flatMap]

/-- Without rows no part fails. -/
theorem Part.computes_noRows_iff {part : Part} :
    part.Computes table [[]] ↔ part.Computes table [] := by
  have noRows (column : Column) : ∃ cell, part.function.apply column [] = .ok cell := by
    cases part.function <;> exact ⟨_, rfl⟩
  simp [Computes, noRows]

/-- The groups of the rows are the groups to aggregate, unless there is neither a row nor a key. -/
theorem groups_cases (grouped : table.groupRows aggregate.keys = .ok groups) :
    aggregate.groups table = .ok groups ∨
      (aggregate.keys = [] ∧ groups = [] ∧ aggregate.groups table = .ok [[]]) := by
  simp only [Aggregate.groups, grouped]
  split
  · rename_i none
    simp only [Bool.and_eq_true, List.isEmpty_iff] at none
    exact .inr ⟨none.1.2, none.1.1, rfl⟩
  · exact .inl rfl

theorem exists_of_groups {used : List (List Nat)} (found : aggregate.groups table = .ok used) :
    ∃ groups, table.groupRows aggregate.keys = .ok groups ∧
      (used = groups ∨ aggregate.keys = [] ∧ groups = [] ∧ used = [[]]) := by
  cases grouped : table.groupRows aggregate.keys with
  | error error =>
      rw [Aggregate.groups, grouped] at found
      cases found
  | ok groups =>
      refine ⟨groups, rfl, ?_⟩
      simpa only [found, Except.ok.injEq] using groups_cases grouped

/-- The keys of the groups to aggregate are those of their first rows. -/
theorem length_firstRows (found : aggregate.groups table = .ok groups)
    (keyed : aggregate.keys ≠ []) :
    (firstRows groups).length = groups.length := by
  obtain ⟨ofRows, grouped, rfl | ⟨noKeys, -⟩⟩ := exists_of_groups found
  · rw [firstRows_eq_map (Table.isPartition_groupRows grouped).nonempty, List.length_map]
  · exact absurd noKeys keyed

/-! ## Both tables -/

/-- The column of a part, repeated in the rows of the groups. -/
def Part.spreadColumn (part : Part) (table : Table) (groups : List (List Nat)) : Column :=
  ⟨part.target, spread table.rowCount groups (groups.map (part.result table))⟩

theorem exists_of_apply (applied : aggregate.apply table = .ok output) :
    ∃ groups, aggregate.groups table = .ok groups ∧
      ∀ part ∈ aggregate.parts, part.Computes table groups := by
  rw [apply] at applied
  split at applied
  · cases applied
  · rename_i groups found
    split at applied
    · cases applied
    · rename_i results traversed
      exact ⟨groups, found, ((results_eq_ok_iff results).1 traversed).1⟩

/-- With keys the groups to aggregate are those of the rows. -/
theorem exists_groupRows_of_apply (applied : aggregate.apply table = .ok output)
    (keyed : aggregate.keys ≠ []) :
    ∃ groups, table.groupRows aggregate.keys = .ok groups ∧ aggregate.groups table = .ok groups ∧
      ∀ part ∈ aggregate.parts, part.Computes table groups := by
  obtain ⟨used, found, computes⟩ := exists_of_apply applied
  obtain ⟨groups, grouped, rfl | ⟨noKeys, -⟩⟩ := exists_of_groups found
  · exact ⟨used, grouped, found, computes⟩
  · exact absurd noKeys keyed

/-- The table that keeps the rows. -/
theorem apply_eq_of_keeps (keeps : aggregate.keepRows = true)
    (found : aggregate.groups table = .ok groups)
    (computes : ∀ part ∈ aggregate.parts, part.Computes table groups) :
    aggregate.apply table =
      table.withColumns (aggregate.parts.map fun part => part.spreadColumn table groups) := by
  have traversed := (results_eq_ok_iff _).2 ⟨computes, rfl⟩
  simp only [apply, found, traversed, if_pos keeps, flatten_map_partsOf, List.map_map]
  rfl

/-- The table with a row for each group. -/
theorem apply_eq_of_drops (drops : aggregate.keepRows = false)
    (found : aggregate.groups table = .ok groups)
    (computes : ∀ part ∈ aggregate.parts, part.Computes table groups) {keys : List Column}
    (foundKeys : table.columnsOf aggregate.keys = .ok keys) :
    aggregate.apply table =
      Table.ofColumns ((aggregate.parts.map fun part => part.resultColumn table groups).foldl
        Table.putColumn (keys.map fun key => key.takeRows (firstRows groups))) := by
  have traversed := (results_eq_ok_iff _).2 ⟨computes, rfl⟩
  simp only [apply, found, traversed, drops, Bool.false_eq_true, if_false, foundKeys,
    flatten_map_partsOf]

theorem withColumns_of_keeps (applied : aggregate.apply table = .ok output)
    (keeps : aggregate.keepRows = true) (found : aggregate.groups table = .ok groups) :
    table.withColumns (aggregate.parts.map fun part => part.spreadColumn table groups) =
      .ok output := by
  obtain ⟨used, foundUsed, computes⟩ := exists_of_apply applied
  cases found.symm.trans foundUsed
  rw [← apply_eq_of_keeps keeps found computes, applied]

theorem ofColumns_of_drops (applied : aggregate.apply table = .ok output)
    (drops : aggregate.keepRows = false) (found : aggregate.groups table = .ok groups) :
    ∃ keys, table.columnsOf aggregate.keys = .ok keys ∧
      Table.ofColumns ((aggregate.parts.map fun part => part.resultColumn table groups).foldl
        Table.putColumn (keys.map fun key => key.takeRows (firstRows groups))) = .ok output := by
  obtain ⟨used, foundUsed, computes⟩ := exists_of_apply applied
  cases found.symm.trans foundUsed
  obtain ⟨ofRows, grouped, -⟩ := exists_of_groups found
  obtain ⟨keys, foundKeys, -⟩ := Table.exists_of_groupRows grouped
  refine ⟨keys, foundKeys, ?_⟩
  rw [← apply_eq_of_drops drops found computes foundKeys, applied]

/-- The columns of the groups have a cell for each group. -/
theorem length_of_mem_grouped (found : aggregate.groups table = .ok groups) {keys : List Column}
    (foundKeys : table.columnsOf aggregate.keys = .ok keys) {column : Column}
    (member : column ∈ (aggregate.parts.map fun part => part.resultColumn table groups).foldl
      Table.putColumn (keys.map fun key => key.takeRows (firstRows groups))) :
    column.cells.length = groups.length := by
  rcases Table.mem_foldl_putColumn member with written | isKey
  · obtain ⟨part, -, rfl⟩ := List.mem_map.1 written
    exact List.length_map ..
  · obtain ⟨key, inKeys, rfl⟩ := List.mem_map.1 isKey
    rw [Column.length_cells_takeRows]
    apply length_firstRows found
    intro noKeys
    rw [noKeys, Table.columnsOf_nil] at foundKeys
    cases foundKeys
    cases inKeys

/-- Both tables can be built exactly if all parts can be computed. -/
theorem exists_apply_iff (aggregate : Aggregate) (wellFormed : table.WellFormed)
    (distinct : aggregate.keys.Nodup) :
    (∃ output, aggregate.apply table = .ok output) ↔
      ∃ groups, table.groupRows aggregate.keys = .ok groups ∧
        ∀ part ∈ aggregate.parts, part.Computes table groups := by
  constructor
  · rintro ⟨output, applied⟩
    obtain ⟨used, found, computes⟩ := exists_of_apply applied
    obtain ⟨groups, grouped, rfl | ⟨-, rfl, rfl⟩⟩ := exists_of_groups found
    · exact ⟨used, grouped, computes⟩
    · exact ⟨[], grouped, fun part member => Part.computes_noRows_iff.1 (computes part member)⟩
  · rintro ⟨groups, grouped, computes⟩
    obtain ⟨used, found, computesUsed⟩ : ∃ used, aggregate.groups table = .ok used ∧
        ∀ part ∈ aggregate.parts, part.Computes table used := by
      rcases groups_cases grouped with found | ⟨-, rfl, found⟩
      · exact ⟨groups, found, computes⟩
      · exact ⟨[[]], found, fun part member => Part.computes_noRows_iff.2 (computes part member)⟩
    cases keepRows : aggregate.keepRows with
    | true =>
        rw [apply_eq_of_keeps keepRows found computesUsed]
        apply wellFormed.exists_withColumns
        rw [List.forall_mem_map]
        intro part _
        exact length_scatter ..
    | false =>
        obtain ⟨keys, foundKeys, -⟩ := Table.exists_of_groupRows grouped
        rw [apply_eq_of_drops keepRows found computesUsed foundKeys]
        have nodup :
            ((keys.map fun key => key.takeRows (firstRows used)).map Column.name).Nodup := by
          rw [List.map_map]
          exact (Table.map_name_of_columnsOf foundKeys).symm ▸ distinct
        obtain ⟨output, built, -⟩ := Table.exists_ofColumns
          (Table.nodup_names_foldl_putColumn _ _ nodup)
          (fun column member => length_of_mem_grouped found foundKeys member)
        exact ⟨output, built⟩

/-- Of the columns of the parts the last one of a name counts. -/
theorem find?_reverse_parts {column : Part → Column}
    (named : ∀ part, (column part).name = part.target) (name : String) :
    ((aggregate.parts.map column).reverse.find? fun column => column.name == name) =
      (aggregate.lastPart? name).map column := by
  rw [← List.map_reverse, List.find?_map]
  simp only [Function.comp_def, named, lastPart?]

theorem column?_of_keeps (applied : aggregate.apply table = .ok output)
    (keeps : aggregate.keepRows = true) (found : aggregate.groups table = .ok groups)
    (name : String) :
    output.column? name =
      ((aggregate.lastPart? name).map fun part => part.spreadColumn table groups).or
        (table.column? name) := by
  rw [Table.column?_of_withColumns (withColumns_of_keeps applied keeps found),
    find?_reverse_parts fun _ => rfl]

theorem column?_of_drops (applied : aggregate.apply table = .ok output)
    (drops : aggregate.keepRows = false) (found : aggregate.groups table = .ok groups)
    (name : String) :
    output.column? name =
      ((aggregate.lastPart? name).map fun part => part.resultColumn table groups).or
        (if name ∈ aggregate.keys then
          (table.column? name).map fun key => key.takeRows (firstRows groups) else none) := by
  obtain ⟨keys, foundKeys, built⟩ := ofColumns_of_drops applied drops found
  rw [Table.column?, (Table.ofColumns_eq_ok_iff.1 built).1, Table.find?_foldl_putColumn,
    find?_reverse_parts fun _ => rfl, List.find?_map]
  have keyEq := Table.find?_of_columnsOf foundKeys name
  simp only [Function.comp_def, Column.name_takeRows, keyEq]
  split <;> rfl

/-- A column of the groups is a key or written by a part. -/
theorem exists_lastPart?_or_mem_keys (applied : aggregate.apply table = .ok output)
    (drops : aggregate.keepRows = false) {name : String} (member : name ∈ output.names) :
    (∃ part, aggregate.lastPart? name = some part) ∨
      name ∈ aggregate.keys ∧ name ∈ table.names := by
  obtain ⟨groups, found, -⟩ := exists_of_apply applied
  obtain ⟨column, there⟩ := Table.mem_names_iff.1 member
  rw [column?_of_drops applied drops found] at there
  cases written : aggregate.lastPart? name with
  | some part => exact .inl ⟨part, rfl⟩
  | none =>
      right
      rw [written, Option.map_none, Option.none_or, Option.ite_none_right_eq_some] at there
      obtain ⟨source, foundSource, -⟩ := Option.map_eq_some_iff.1 there.2
      exact ⟨there.1, Table.mem_names_iff.2 ⟨source, foundSource⟩⟩

theorem wellFormed_of_drops (applied : aggregate.apply table = .ok output)
    (drops : aggregate.keepRows = false) : output.WellFormed := by
  obtain ⟨groups, found, -⟩ := exists_of_apply applied
  obtain ⟨keys, -, built⟩ := ofColumns_of_drops applied drops found
  exact (Table.ofColumns_eq_ok_iff.1 built).2.2

/-- A table with a row for each group has as many rows, if it has a column. -/
theorem rowCount_of_drops (applied : aggregate.apply table = .ok output)
    (drops : aggregate.keepRows = false) (found : aggregate.groups table = .ok groups)
    (occupied : output.columns ≠ []) : output.rowCount = groups.length := by
  obtain ⟨keys, foundKeys, built⟩ := ofColumns_of_drops applied drops found
  obtain ⟨columnsEq, -, wellFormed⟩ := Table.ofColumns_eq_ok_iff.1 built
  obtain ⟨column, member⟩ := List.exists_mem_of_ne_nil _ occupied
  rw [← wellFormed.length_cells column member]
  exact length_of_mem_grouped found foundKeys (columnsEq ▸ member)

theorem columns_ne_nil (applied : aggregate.apply table = .ok output)
    (drops : aggregate.keepRows = false) (keyed : aggregate.keys ≠ []) : output.columns ≠ [] := by
  obtain ⟨groups, found, -⟩ := exists_of_apply applied
  obtain ⟨keys, foundKeys, -⟩ := ofColumns_of_drops applied drops found
  obtain ⟨name, isKey⟩ := List.exists_mem_of_ne_nil _ keyed
  obtain ⟨key, keyEq⟩ := Table.exists_column?_of_columnsOf foundKeys isKey
  obtain ⟨column, there⟩ : ∃ column, output.column? name = some column := by
    rw [column?_of_drops applied drops found, if_pos isKey, keyEq, ← Option.isSome_iff_exists]
    simp
  exact List.ne_nil_of_mem (Table.column?_mem there)

/-- The cell of a group is repeated in its rows. -/
theorem cellAt_spread (name : String) {count : Nat}
    (partition : IsPartition groups (List.range count)) (value : List Nat → Cell) {rows : List Nat}
    (member : rows ∈ groups) {row : Nat} (inside : row ∈ rows) :
    (Column.mk name (spread count groups (groups.map value))).cellAt row = value rows := by
  have nodup := partition.nodup_flatten List.nodup_range
  rw [spread, cellAt_scatter name _ (List.mem_range.1 (partition.mem member inside)),
    ← List.map_prod_left_eq_zip, List.flatMap_map,
    lookup_flatMap_of_mem nodup (by simp) member inside, lookup_map_pair rows fun _ => value rows,
    if_pos inside, Option.getD_some]

/-- The cells of the rows of a group in the table that keeps the rows. -/
theorem cellAt_of_keeps (applied : aggregate.apply table = .ok output)
    (keeps : aggregate.keepRows = true) (grouped : table.groupRows aggregate.keys = .ok groups)
    {rows : List Nat} (member : rows ∈ groups) {row : Nat} (inside : row ∈ rows) (name : String) :
    output.cellAt row name =
      ((aggregate.lastPart? name).map fun part => part.result table rows).getD
        (table.cellAt row name) := by
  have found := groups_of_groupRows grouped (List.ne_nil_of_mem member)
  rw [Table.cellAt, Table.cellAt, column?_of_keeps applied keeps found]
  cases aggregate.lastPart? name with
  | none => rfl
  | some part => exact cellAt_spread _ (Table.isPartition_groupRows grouped) _ member inside

/-- The cells of a group in the table with a row for each group. -/
theorem cellAt_of_drops (applied : aggregate.apply table = .ok output)
    (drops : aggregate.keepRows = false)
    (grouped : table.groupRows aggregate.keys = .ok groups) {index : Nat} {rows : List Nat}
    (atIndex : groups[index]? = some rows) (name : String) :
    output.cellAt index name =
      ((aggregate.lastPart? name).map fun part => part.result table rows).getD
        (if name ∈ aggregate.keys then table.cellAt (rows.headD 0) name else .null) := by
  have found := groups_of_groupRows grouped (List.ne_nil_of_mem (List.mem_of_getElem? atIndex))
  rw [Table.cellAt, column?_of_drops applied drops found]
  cases aggregate.lastPart? name with
  | some part => exact Column.cellAt_map atIndex _ _
  | none =>
      rw [Option.map_none, Option.none_or, Option.map_none, Option.getD_none]
      by_cases isKey : name ∈ aggregate.keys
      · rw [if_pos isKey, if_pos isKey, Table.cellAt]
        cases table.column? name with
        | none => rfl
        | some key => exact Table.cellAt_takeRows_firstRows grouped atIndex key
      · rw [if_neg isKey, if_neg isKey]

/-- If nothing is written over the keys, each row of the table has one line of results with its key,
the one of its group. -/
theorem exists_line (applied : aggregate.apply table = .ok output)
    (drops : aggregate.keepRows = false) (keyed : aggregate.keys ≠ [])
    (untouched : ∀ name ∈ aggregate.keys, aggregate.lastPart? name = none)
    (grouped : table.groupRows aggregate.keys = .ok groups) {row : Nat}
    (bound : row < table.rowCount) :
    ∃ (line : Nat) (rows : List Nat), groups[line]? = some rows ∧ row ∈ rows ∧
      ∀ other, (other < output.rowCount ∧ ∀ name ∈ aggregate.keys,
        (output.cellAt other name).Equals (table.cellAt row name)) ↔ other = line := by
  obtain ⟨line, rows, atLine, inside⟩ := Table.exists_group_of_lt grouped bound
  have member := List.mem_of_getElem? atLine
  have countEq := rowCount_of_drops applied drops
    (groups_of_groupRows grouped (List.ne_nil_of_mem member)) (columns_ne_nil applied drops keyed)
  have keyCell {other : Nat} {others : List Nat} (atOther : groups[other]? = some others)
      {name : String} (isKey : name ∈ aggregate.keys) :
      output.cellAt other name = table.cellAt (others.headD 0) name := by
    rw [cellAt_of_drops applied drops grouped atOther, untouched name isKey, Option.map_none,
      Option.getD_none, if_pos isKey]
  refine ⟨line, rows, atLine, inside, ?_⟩
  intro other
  constructor
  · rintro ⟨within, equal⟩
    rw [countEq] at within
    have atOther := List.getElem?_eq_getElem within
    have first := Table.headD_mem_group grouped (List.mem_of_getElem? atOther)
    apply Table.index_eq_of_agreeOn grouped atOther atLine first inside
    intro name isKey
    exact keyCell atOther isKey ▸ equal name isKey
  · rintro rfl
    rw [countEq]
    refine ⟨(List.getElem?_eq_some_iff.1 atLine).1, ?_⟩
    intro name isKey
    have first := Table.headD_mem_group grouped member
    rw [keyCell atLine isKey]
    exact ((Table.mem_group_iff grouped member first).1 inside).2 name isKey

theorem rowCount_of_keeps (applied : aggregate.apply table = .ok output)
    (keeps : aggregate.keepRows = true) (wellFormed : table.WellFormed) :
    output.rowCount = table.rowCount := by
  obtain ⟨groups, found, -⟩ := exists_of_apply applied
  have fit : ∀ column ∈ aggregate.parts.map fun part => part.spreadColumn table groups,
      column.cells.length = table.rowCount := by
    rw [List.forall_mem_map]
    intro part _
    exact length_scatter ..
  exact (wellFormed.frames_withColumns fit (withColumns_of_keeps applied keeps found)).rowCount_eq

/-! ## One table from the other -/

section Broadcast

variable {kept grouped : Table} {name : String}

/-- The columns of the groups are columns of the table that keeps the rows. -/
theorem mem_names_of_mem_grouped
    (appliedKept : Aggregate.apply { aggregate with keepRows := true } table = .ok kept)
    (appliedGrouped : Aggregate.apply { aggregate with keepRows := false } table = .ok grouped)
    (member : name ∈ grouped.names) : name ∈ kept.names := by
  obtain ⟨used, found, -⟩ := exists_of_apply appliedKept
  have keptColumn : kept.column? name =
      ((aggregate.lastPart? name).map fun part => part.spreadColumn table used).or
        (table.column? name) :=
    column?_of_keeps appliedKept rfl found name
  have origin : (∃ part, aggregate.lastPart? name = some part) ∨
      name ∈ aggregate.keys ∧ name ∈ table.names :=
    exists_lastPart?_or_mem_keys appliedGrouped rfl member
  rw [Table.mem_names_iff, keptColumn, ← Option.isSome_iff_exists, Option.isSome_or,
    Option.isSome_map, Bool.or_eq_true]
  rw [Table.mem_names_iff] at origin
  exact origin.imp Option.isSome_iff_exists.2 fun key => Option.isSome_iff_exists.2 key.2

/-- The rows of a group have the cells of the group.  A part gives the same cell to all of them, and
the cells of a key are equal in all of them. -/
theorem cellAt_equals_of_mem_grouped
    (appliedKept : Aggregate.apply { aggregate with keepRows := true } table = .ok kept)
    (appliedGrouped : Aggregate.apply { aggregate with keepRows := false } table = .ok grouped)
    (ofRows : table.groupRows aggregate.keys = .ok groups) (member : name ∈ grouped.names)
    {index : Nat} {rows : List Nat} (atIndex : groups[index]? = some rows) {row : Nat}
    (inside : row ∈ rows) : (kept.cellAt row name).Equals (grouped.cellAt index name) := by
  have inGroups := List.mem_of_getElem? atIndex
  have keptCell : kept.cellAt row name =
      ((aggregate.lastPart? name).map fun part => part.result table rows).getD
        (table.cellAt row name) :=
    cellAt_of_keeps appliedKept rfl ofRows inGroups inside name
  have groupedCell : grouped.cellAt index name =
      ((aggregate.lastPart? name).map fun part => part.result table rows).getD
        (if name ∈ aggregate.keys then table.cellAt (rows.headD 0) name else .null) :=
    cellAt_of_drops appliedGrouped rfl ofRows atIndex name
  have origin : (∃ part, aggregate.lastPart? name = some part) ∨
      name ∈ aggregate.keys ∧ name ∈ table.names :=
    exists_lastPart?_or_mem_keys appliedGrouped rfl member
  rw [keptCell, groupedCell]
  rcases origin with ⟨part, written⟩ | ⟨isKey, -⟩
  · rw [written]
    exact Cell.equals_self _
  · cases aggregate.lastPart? name with
    | some part => exact Cell.equals_self _
    | none =>
        have first := Table.headD_mem_group ofRows inGroups
        rw [Option.map_none, Option.getD_none, Option.getD_none, if_pos isKey]
        exact ((Table.mem_group_iff ofRows inGroups inside).1 first).2 name isKey

/-- The row of a group is a row of the table of the groups. -/
theorem lt_rowCount_of_mem_grouped
    (appliedGrouped : Aggregate.apply { aggregate with keepRows := false } table = .ok grouped)
    (ofRows : table.groupRows aggregate.keys = .ok groups) (member : name ∈ grouped.names)
    {index : Nat} {rows : List Nat} (atIndex : groups[index]? = some rows) :
    index < grouped.rowCount := by
  have occupied : grouped.columns ≠ [] := by
    intro none
    rw [Table.names, none] at member
    cases member
  have inGroups := List.mem_of_getElem? atIndex
  rw [rowCount_of_drops appliedGrouped rfl
    (groups_of_groupRows ofRows (List.ne_nil_of_mem inGroups)) occupied]
  exact (List.getElem?_eq_some_iff.1 atIndex).1

end Broadcast

/-- The table that keeps the rows can be built exactly if the one with a row for each group can, and
it repeats the row of each group in the rows of the group. -/
theorem keepRows_broadcasts (aggregate : Aggregate) (table : Table) (wellFormed : table.WellFormed)
    (distinct : aggregate.keys.Nodup) :
    ((∃ kept, Aggregate.apply { aggregate with keepRows := true } table = .ok kept) ↔
      ∃ grouped, Aggregate.apply { aggregate with keepRows := false } table = .ok grouped) ∧
    ∀ kept grouped, Aggregate.apply { aggregate with keepRows := true } table = .ok kept →
      Aggregate.apply { aggregate with keepRows := false } table = .ok grouped →
      ∃ groups, table.groupRows aggregate.keys = .ok groups ∧
        ∀ name ∈ grouped.names, name ∈ kept.names ∧
          ∀ (index : Nat) (rows : List Nat), groups[index]? = some rows → ∀ row ∈ rows,
            index < grouped.rowCount ∧ row < kept.rowCount ∧
              (kept.cellAt row name).Equals (grouped.cellAt index name) := by
  constructor
  · exact (exists_apply_iff { aggregate with keepRows := true } wellFormed distinct).trans
      (exists_apply_iff { aggregate with keepRows := false } wellFormed distinct).symm
  · intro kept grouped appliedKept appliedGrouped
    obtain ⟨used, found, -⟩ := exists_of_apply appliedKept
    obtain ⟨groups, ofRows, -⟩ := exists_of_groups found
    refine ⟨groups, ofRows, ?_⟩
    intro name member
    refine ⟨mem_names_of_mem_grouped appliedKept appliedGrouped member, ?_⟩
    intro index rows atIndex row inside
    refine ⟨lt_rowCount_of_mem_grouped appliedGrouped ofRows member atIndex, ?_,
      cellAt_equals_of_mem_grouped appliedKept appliedGrouped ofRows member atIndex inside⟩
    rw [rowCount_of_keeps appliedKept rfl wellFormed]
    exact List.mem_range.1
      ((Table.isPartition_groupRows ofRows).mem (List.mem_of_getElem? atIndex) inside)

/-- Visits of two sites, one of them written with both zeros, and with a gap. -/
def visits : Table :=
  { columns :=
      [⟨"site", [.float 0.0, .float (-0.0), .integer 1]⟩,
       ⟨"time", [.integer 4, .null, .integer 7]⟩]
    rowCount := 3 }

/-- Counts and sums by site.  A count is written over the times, and the sum over another count. -/
def siteTimes : Aggregate :=
  { keys := ["site"]
    aggregations := [⟨["time", "time"], .count, ["total", "time"]⟩, ⟨["time"], .sum, ["total"]⟩]
    keepRows := false }

/-- The visits with the totals of their sites. -/
def visitsWithTotals : Table :=
  { columns :=
      [⟨"site", [.float 0.0, .float (-0.0), .integer 1]⟩,
       ⟨"time", [.integer 1, .integer 1, .integer 1]⟩,
       ⟨"total", [.integer 4, .integer 4, .integer 7]⟩]
    rowCount := 3 }

/-- The totals of the sites. -/
def siteTotals : Table :=
  { columns :=
      [⟨"site", [.float 0.0, .integer 1]⟩, ⟨"total", [.integer 4, .integer 7]⟩,
       ⟨"time", [.integer 1, .integer 1]⟩]
    rowCount := 2 }

/-- The group of both zeros has one total, which stands beside each of its rows. -/
theorem keepRows_broadcasts_visits :
    visits.WellFormed ∧ siteTimes.keys.Nodup ∧
      Aggregate.apply { siteTimes with keepRows := true } visits = .ok visitsWithTotals ∧
      Aggregate.apply { siteTimes with keepRows := false } visits = .ok siteTotals ∧
      ∀ name ∈ siteTotals.names, ∀ row ∈ [0, 1],
        (visitsWithTotals.cellAt row name).Equals (siteTotals.cellAt 0 name) := by
  have wellFormed : visits.WellFormed := ⟨by decide, by decide⟩
  have distinct : siteTimes.keys.Nodup := by decide
  have appliedKept :
      Aggregate.apply { siteTimes with keepRows := true } visits = .ok visitsWithTotals := rfl
  have appliedGrouped :
      Aggregate.apply { siteTimes with keepRows := false } visits = .ok siteTotals := rfl
  refine ⟨wellFormed, distinct, appliedKept, appliedGrouped, ?_⟩
  obtain ⟨groups, ofRows, repeated⟩ := (keepRows_broadcasts siteTimes visits wellFormed distinct).2
    visitsWithTotals siteTotals appliedKept appliedGrouped
  have groupsEq : visits.groupRows siteTimes.keys = .ok [[0, 1], [2]] := rfl
  cases ofRows.symm.trans groupsEq
  intro name member row inside
  exact ((repeated name member).2 0 [0, 1] rfl row inside).2.2

end Aggregate

end TableFlow
