import TableFlow.Proofs.Transform.Aggregate
import TableFlow.Transform.Pivot

/-!
# Pivots and aggregates by one more key

A pivot looks for the values of its column in each group of the index, one after the other.  An
aggregate by the index and the pivoted column puts every row into the group of its whole key.  The
rows of a group of the index that have a value are the rows of a group of the whole key, so both
apply the function to the same rows: a pivot is the aggregate by one more key, with its lines spread
over rows and columns.

A pivot without index columns, and without any value to make a column of, has no column at all.  It
has no row then, although its groups have one.

Main statement: `Pivot.apply_spreads`.
-/

namespace TableFlow

/-- The rows with a value that no row before them has under a name. -/
def Table.firstAppearances (table : Table) (name : String) : List Nat :=
  (List.range table.rowCount).filter fun row =>
    (table.cellAt row name).isNull = false ∧
      ∀ earlier < row, ¬ (table.cellAt earlier name).Equals (table.cellAt row name)

namespace Pivot

variable {pivot : Pivot} {table output : Table}

theorem categories_concat (cells : List Cell) (cell : Cell) :
    categories (cells ++ [cell]) =
      if cell.isNull || (categories cells).any (fun other => other.same cell) then categories cells
      else categories cells ++ [cell] := by
  rw [categories, List.foldl_append]
  rfl

/-- A value is among the categories if it was among the cells. -/
theorem any_categories_iff {cell : Cell} (filled : cell.isNull = false) (cells : List Cell) :
    (categories cells).any (fun other => other.same cell) = true ↔
      ∃ other ∈ cells, other.Equals cell := by
  induction cells using List.reverseRecOn with
  | nil => simp [categories]
  | append_singleton cells last ih =>
      have split : (∃ other ∈ cells ++ [last], other.Equals cell) ↔
          (∃ other ∈ cells, other.Equals cell) ∨ last.Equals cell := by
        simp [or_and_right, exists_or]
      rw [categories_concat, split]
      split
      · rename_i known
        refine ih.trans ⟨.inl, Or.rec id ?_⟩
        intro equal
        rcases Bool.or_eq_true_iff.1 known with empty | old
        · cases equal <;> simp [Cell.isNull] at empty filled
        · -- The category that the last cell is equal to is equal to the other cell, too.
          rw [← ih]
          rw [List.any_eq_true] at old ⊢
          obtain ⟨category, member, same⟩ := old
          have ofLast := Cell.same_iff_equals.1 same
          exact ⟨category, member, Cell.same_iff_equals.2 (ofLast.trans equal)⟩
      · rw [List.any_append, Bool.or_eq_true, ih, List.any_cons, List.any_nil, Bool.or_false,
          Cell.same_iff_equals]

/-- The categories are the values in the order of their first appearance. -/
theorem categories_map_range (cell : Nat → Cell) (count : Nat) :
    categories ((List.range count).map cell) =
      ((List.range count).filter fun row =>
        (cell row).isNull = false ∧ ∀ earlier < row, ¬ (cell earlier).Equals (cell row)).map
          cell := by
  induction count with
  | zero => rfl
  | succ count ih =>
      -- The last cell is left out exactly if it does not appear for the first time.
      have new : ((cell count).isNull || (categories ((List.range count).map cell)).any
            (fun other => other.same (cell count))) = true ↔
          ¬ ((cell count).isNull = false ∧
            ∀ earlier < count, ¬ (cell earlier).Equals (cell count)) := by
        cases filled : (cell count).isNull with
        | true => simp
        | false =>
            rw [Bool.false_or, any_categories_iff filled]
            simp
      rw [List.range_succ, List.map_append, List.map_singleton, categories_concat,
        List.filter_append, List.map_append, ← ih, List.filter_singleton]
      by_cases appears : (cell count).isNull = false ∧
          ∀ earlier < count, ¬ (cell earlier).Equals (cell count)
      · rw [if_neg (mt new.1 (not_not_intro appears)), decide_eq_true appears, cond_true,
          List.map_singleton]
      · rw [if_pos (new.2 appears), decide_eq_false appears, cond_false, List.map_nil,
          List.append_nil]

/-- The columns of the categories, from a result for each group and category. -/
theorem spreadColumns_map (categories : List Cell) (groups : List (List Nat))
    (result : List Nat → Cell → Cell) :
    spreadColumns categories (groups.map fun rows => categories.map (result rows)) =
      categories.map fun category =>
        ⟨category.render, groups.map fun rows => result rows category⟩ := by
  induction categories with
  | nil => rfl
  | cons category rest ih =>
      have heads : (groups.filterMap fun rows => some (result rows category)) =
          groups.map fun rows => result rows category :=
        congrFun List.filterMap_eq_map groups
      simp only [spreadColumns, List.filterMap_map, List.map_map, List.map_cons, Function.comp_def,
        List.head?_cons, List.tail_cons, ih, heads]

/-! ## The table of a pivot -/

/-- The result for a group and a category. -/
def result (pivot : Pivot) (column values : Column) (rows : List Nat) (category : Cell) : Cell :=
  (pivot.cellFor column values rows category).toOption.getD .null

/-- The index columns with the first rows of the groups, and a column of results for each
category. -/
def outputColumns (pivot : Pivot) (column values : Column) (groups : List (List Nat))
    (keys : List Column) : List Column :=
  (keys.map fun key => key.takeRows (firstRows groups)) ++
    (categories column.cells).map fun category =>
      ⟨category.render, groups.map fun rows => pivot.result column values rows category⟩

theorem exists_of_apply (applied : pivot.apply table = .ok output) :
    ∃ column values groups keys, table.column pivot.column = .ok column ∧
      table.column pivot.value = .ok values ∧ table.groupRows pivot.index = .ok groups ∧
      table.columnsOf pivot.index = .ok keys ∧
      Table.ofColumns (pivot.outputColumns column values groups keys) = .ok output := by
  rw [apply] at applied
  split at applied
  · cases applied
  · rename_i column found
    split at applied
    · cases applied
    · rename_i values foundValues
      split at applied
      · cases applied
      · split at applied
        · cases applied
        · rename_i groups grouped
          simp only at applied
          split at applied
          · cases applied
          · rename_i results traversed
            split at applied
            · cases applied
            · rename_i keys foundKeys
              have resultsEq := ((mapM_eq_ok_iff_of fun rows _ =>
                mapM_eq_ok_iff_toOption Cell.null) results).1 traversed
              have columnsEq :=
                spreadColumns_map (categories column.cells) groups (pivot.result column values)
              refine ⟨column, values, groups, keys, found, foundValues, grouped, foundKeys, ?_⟩
              rw [outputColumns, ← columnsEq, ← applied, resultsEq.2]
              rfl

section Output

variable {column values : Column} {groups : List (List Nat)} {keys : List Column}

/-- The categories of a column are the values of the rows where they appear first. -/
theorem map_categories (wellFormed : table.WellFormed)
    (found : table.column pivot.column = .ok column) {α : Type} (view : Cell → α) :
    (categories column.cells).map view =
      (table.firstAppearances pivot.column).map fun first =>
        view (table.cellAt first pivot.column) := by
  rw [wellFormed.cells_eq_map found, categories_map_range, List.map_map]
  rfl

theorem mem_categories (wellFormed : table.WellFormed)
    (found : table.column pivot.column = .ok column) {first : Nat}
    (member : first ∈ table.firstAppearances pivot.column) :
    table.cellAt first pivot.column ∈ categories column.cells := by
  have categoriesEq := map_categories wellFormed found id
  rw [List.map_id] at categoriesEq
  rw [categoriesEq]
  exact List.mem_map_of_mem member

theorem names_of_ofColumns (wellFormed : table.WellFormed)
    (found : table.column pivot.column = .ok column)
    (foundKeys : table.columnsOf pivot.index = .ok keys)
    (built : Table.ofColumns (pivot.outputColumns column values groups keys) = .ok output) :
    output.names =
      pivot.index ++ (table.firstAppearances pivot.column).map fun first =>
        (table.cellAt first pivot.column).render := by
  rw [Table.names, (Table.ofColumns_eq_ok_iff.1 built).1, outputColumns, List.map_append,
    List.map_map, List.map_map, ← map_categories wellFormed found Cell.render]
  exact congrArg (· ++ _) (Table.map_name_of_columnsOf foundKeys)

theorem length_of_mem_outputColumns (grouped : table.groupRows pivot.index = .ok groups)
    {other : Column} (member : other ∈ pivot.outputColumns column values groups keys) :
    other.cells.length = groups.length := by
  rcases List.mem_append.1 member with isKey | isCategory
  · obtain ⟨key, -, rfl⟩ := List.mem_map.1 isKey
    rw [Column.length_cells_takeRows,
      firstRows_eq_map (Table.isPartition_groupRows grouped).nonempty, List.length_map]
  · obtain ⟨category, -, rfl⟩ := List.mem_map.1 isCategory
    exact List.length_map ..

theorem rowCount_of_ofColumns (grouped : table.groupRows pivot.index = .ok groups)
    (built : Table.ofColumns (pivot.outputColumns column values groups keys) = .ok output) :
    output.rowCount = if output.names = [] then 0 else groups.length := by
  obtain ⟨columnsEq, countEq, wellFormed⟩ := Table.ofColumns_eq_ok_iff.1 built
  split
  · rename_i none
    rw [← columnsEq, List.map_eq_nil_iff.1 none] at countEq
    exact countEq
  · rename_i some
    obtain ⟨first, member⟩ := List.exists_mem_of_ne_nil output.columns (mt (congrArg _) some)
    rw [← wellFormed.length_cells first member]
    exact length_of_mem_outputColumns grouped (columnsEq ▸ member)

variable {index : Nat} {rows : List Nat}

theorem cellAt_of_index (grouped : table.groupRows pivot.index = .ok groups)
    (foundKeys : table.columnsOf pivot.index = .ok keys)
    (built : Table.ofColumns (pivot.outputColumns column values groups keys) = .ok output)
    (atIndex : groups[index]? = some rows) {name : String} (isKey : name ∈ pivot.index) :
    output.cellAt index name = table.cellAt (rows.headD 0) name := by
  obtain ⟨key, found⟩ := Table.exists_column?_of_columnsOf foundKeys isKey
  have keyEq := Table.find?_of_columnsOf foundKeys name
  rw [if_pos isKey, found] at keyEq
  rw [Table.cellAt, Table.column?, (Table.ofColumns_eq_ok_iff.1 built).1, outputColumns,
    List.find?_append, List.find?_map]
  simp only [Function.comp_def, Column.name_takeRows, keyEq, Option.map_some, Option.some_or]
  rw [Table.cellAt, found]
  exact Table.cellAt_takeRows_firstRows grouped atIndex key

theorem cellAt_of_category
    (built : Table.ofColumns (pivot.outputColumns column values groups keys) = .ok output)
    (atIndex : groups[index]? = some rows) {category : Cell}
    (member : category ∈ categories column.cells) :
    output.cellAt index category.render = pivot.result column values rows category := by
  obtain ⟨columnsEq, -, wellFormed⟩ := Table.ofColumns_eq_ok_iff.1 built
  have inOutput : ⟨category.render, groups.map fun rows =>
      pivot.result column values rows category⟩ ∈ output.columns := by
    rw [columnsEq, outputColumns]
    exact List.mem_append_right _ (List.mem_map.2 ⟨category, member, rfl⟩)
  rw [Table.cellAt_eq_of_column (wellFormed.column_of_mem inOutput)]
  exact Column.cellAt_map atIndex _ _

end Output

/-- The aggregate of the values by the index and the pivoted column. -/
def byWholeKey (pivot : Pivot) (target : String) : Aggregate :=
  { keys := pivot.index ++ [pivot.column]
    aggregations := [⟨[pivot.value], pivot.function, [target]⟩]
    keepRows := false }

theorem lastPart?_byWholeKey (pivot : Pivot) (target name : String) :
    (pivot.byWholeKey target).lastPart? name =
      if target = name then some ⟨pivot.function, pivot.value, target⟩ else none := by
  simp [Aggregate.lastPart?, Aggregate.parts, Aggregate.partsOf, byWholeKey, List.find?_singleton]

section Results

variable {column values : Column} {groups : List (List Nat)} {rows : List Nat} {category : Cell}

theorem result_of_absent (found : table.column pivot.column = .ok column)
    (absent : ∀ row ∈ rows, ¬ (table.cellAt row pivot.column).Equals category) :
    pivot.result column values rows category = .null := by
  have none : (rows.filter fun row => category.same (column.cellAt row)) = [] := by
    rw [List.filter_eq_nil_iff]
    intro row inside same
    rw [Cell.same_iff_equals, ← Table.cellAt_eq_of_column found] at same
    exact absent row inside same.symm
  rw [result, cellFor, none]
  rfl

/-- The rows of a group that have a value are a group by the whole key. -/
theorem cellFor_of_present (found : table.column pivot.column = .ok column)
    (grouped : table.groupRows pivot.index = .ok groups) (member : rows ∈ groups)
    {finer : List (List Nat)}
    (groupedFiner : table.groupRows (pivot.index ++ [pivot.column]) = .ok finer) {part : List Nat}
    (partOf : part ∈ finer) {row : Nat} (inside : row ∈ rows) (insidePart : row ∈ part)
    (equal : (table.cellAt row pivot.column).Equals category) :
    pivot.cellFor column values rows category = pivot.function.apply values part := by
  have filtered : (rows.filter fun other => category.same (column.cellAt other)) = part := by
    rw [← Table.filter_group_eq grouped member inside groupedFiner partOf insidePart]
    apply List.filter_congr
    intro other _
    rw [Bool.eq_iff_iff, Cell.same_iff_equals, decide_eq_true_eq, Table.AgreeOn,
      List.forall_mem_singleton, ← Table.cellAt_eq_of_column found]
    exact ⟨equal.trans, equal.symm.trans⟩
  rw [cellFor, filtered]
  cases part with
  | nil => cases insidePart
  | cons first rest => rfl

/-- The line of the aggregate with the key of a row has the result for its group and its value. -/
theorem exists_line (found : table.column pivot.column = .ok column)
    (foundValues : table.column pivot.value = .ok values)
    (grouped : table.groupRows pivot.index = .ok groups) (member : rows ∈ groups) {target : String}
    (fresh : target ∉ pivot.index ++ [pivot.column]) {aggregated : Table}
    (applied : (pivot.byWholeKey target).apply table = .ok aggregated) {row : Nat}
    (inside : row ∈ rows) (equal : (table.cellAt row pivot.column).Equals category) :
    ∃ line, (∀ other, (other < aggregated.rowCount ∧
        ∀ name ∈ pivot.index ++ [pivot.column],
          (aggregated.cellAt other name).Equals (table.cellAt row name)) ↔ other = line) ∧
      pivot.result column values rows category = aggregated.cellAt line target := by
  obtain ⟨used, foundFiner, computes⟩ := Aggregate.exists_of_apply applied
  obtain ⟨finer, groupedFiner, -⟩ := Aggregate.exists_of_groups foundFiner
  have bound : row < table.rowCount :=
    List.mem_range.1 ((Table.isPartition_groupRows grouped).mem member inside)
  have written := lastPart?_byWholeKey pivot target
  have untouched : ∀ name ∈ pivot.index ++ [pivot.column],
      (pivot.byWholeKey target).lastPart? name = none := by
    intro name isKey
    rw [written, if_neg]
    rintro rfl
    exact fresh isKey
  have keyed : (pivot.byWholeKey target).keys ≠ [] :=
    List.append_ne_nil_of_right_ne_nil _ (List.cons_ne_nil _ _)
  obtain ⟨line, part, atLine, insidePart, only⟩ :=
    Aggregate.exists_line applied rfl keyed untouched groupedFiner bound
  refine ⟨line, only, ?_⟩
  rw [Aggregate.cellAt_of_drops applied rfl groupedFiner atLine, written, if_pos rfl,
    Option.map_some, Option.getD_some, result, cellFor_of_present found grouped member groupedFiner
      (List.mem_of_getElem? atLine) inside insidePart equal, Aggregate.Part.result, foundValues]
  rfl

end Results

/-- How a pivot comes from the groups of its index and from an aggregate by the whole key, with its
results under some name. -/
structure Spreads (pivot : Pivot) (table aggregated : Table) (target : String)
    (groups : List (List Nat)) (output : Table) : Prop where
  names_eq : output.names =
    pivot.index ++ (table.firstAppearances pivot.column).map fun first =>
      (table.cellAt first pivot.column).render
  /-- There is a row for each group, but no row without a column. -/
  rowCount_eq : output.rowCount = if output.names = [] then 0 else groups.length
  index_cell : ∀ (index : Nat) (rows : List Nat), groups[index]? = some rows →
    ∀ name ∈ pivot.index, output.cellAt index name = table.cellAt (rows.headD 0) name
  /-- A value that no row of a group has. -/
  absent_cell : ∀ (index : Nat) (rows : List Nat), groups[index]? = some rows →
    ∀ first ∈ table.firstAppearances pivot.column,
      (∀ row ∈ rows,
        ¬ (table.cellAt row pivot.column).Equals (table.cellAt first pivot.column)) →
      output.cellAt index (table.cellAt first pivot.column).render = .null
  /-- A value that a row of a group has: the aggregate has one line with the key of the row. -/
  present_cell : ∀ (index : Nat) (rows : List Nat), groups[index]? = some rows →
    ∀ first ∈ table.firstAppearances pivot.column, ∀ row ∈ rows,
      (table.cellAt row pivot.column).Equals (table.cellAt first pivot.column) →
      ∃ line, (∀ other, (other < aggregated.rowCount ∧
          ∀ name ∈ pivot.index ++ [pivot.column],
            (aggregated.cellAt other name).Equals (table.cellAt row name)) ↔ other = line) ∧
        output.cellAt index (table.cellAt first pivot.column).render =
          aggregated.cellAt line target

/-- A pivot has columns of different names, and it spreads an aggregate by the whole key, if that
one can be computed and has a new name for its results. -/
theorem apply_spreads (pivot : Pivot) (table output : Table)
    (applied : pivot.apply table = .ok output) :
    output.names.Nodup ∧
      ∀ target aggregated, table.WellFormed → target ∉ pivot.index ++ [pivot.column] →
        (pivot.byWholeKey target).apply table = .ok aggregated →
        ∃ groups, table.groupRows pivot.index = .ok groups ∧
          pivot.Spreads table aggregated target groups output := by
  obtain ⟨column, values, groups, keys, found, foundValues, grouped, foundKeys, built⟩ :=
    exists_of_apply applied
  refine ⟨(Table.ofColumns_eq_ok_iff.1 built).2.2.nodup_names, ?_⟩
  intro target aggregated wellFormed fresh appliedFiner
  refine ⟨groups, grouped, ?_⟩
  exact
    { names_eq := names_of_ofColumns wellFormed found foundKeys built
      rowCount_eq := rowCount_of_ofColumns grouped built
      index_cell := by
        intro index rows atIndex name isKey
        exact cellAt_of_index grouped foundKeys built atIndex isKey
      absent_cell := by
        intro index rows atIndex first member absent
        rw [cellAt_of_category built atIndex (mem_categories wellFormed found member)]
        exact result_of_absent found absent
      present_cell := by
        intro index rows atIndex first member row inside equal
        rw [cellAt_of_category built atIndex (mem_categories wellFormed found member)]
        exact exists_line found foundValues grouped (List.mem_of_getElem? atIndex) fresh
          appliedFiner
          inside equal }

/-- Readings of two sites: a mode written with both zeros, a reading without a mode, and one without
a level. -/
def readings : Table :=
  { columns :=
      [⟨"site", [.text "a", .text "b", .text "a", .text "a", .text "b"]⟩,
       ⟨"mode", [.float 0.0, .integer 1, .null, .float (-0.0), .integer 1]⟩,
       ⟨"level", [.integer 4, .null, .integer 7, .integer 2, .integer 5]⟩]
    rowCount := 5 }

/-- The sums of the levels by site, with a column for each mode. -/
def levelsBySite : Pivot :=
  { index := ["site"], column := "mode", value := "level", function := .sum }

/-- The levels with a row for each site. -/
def siteLevels : Table :=
  { columns :=
      [⟨"site", [.text "a", .text "b"]⟩, ⟨"0.0", [.integer 6, .null]⟩,
       ⟨"1", [.null, .integer 5]⟩]
    rowCount := 2 }

/-- The levels with a row for each site and mode. -/
def siteModeLevels : Table :=
  { columns :=
      [⟨"site", [.text "a", .text "b", .text "a"]⟩,
       ⟨"mode", [.float 0.0, .integer 1, .null]⟩,
       ⟨"total", [.integer 6, .integer 5, .integer 7]⟩]
    rowCount := 3 }

/-- The row without a mode goes into no column, and a mode that a site lacks is left empty. -/
theorem apply_spreads_readings :
    levelsBySite.apply readings = .ok siteLevels ∧ readings.WellFormed ∧
      "total" ∉ levelsBySite.index ++ [levelsBySite.column] ∧
      (levelsBySite.byWholeKey "total").apply readings = .ok siteModeLevels ∧
      levelsBySite.Spreads readings siteModeLevels "total" [[0, 2, 3], [1, 4]] siteLevels := by
  have applied : levelsBySite.apply readings = .ok siteLevels := rfl
  have wellFormed : readings.WellFormed := ⟨by decide, by decide⟩
  have fresh : "total" ∉ levelsBySite.index ++ [levelsBySite.column] := by decide
  have appliedFiner : (levelsBySite.byWholeKey "total").apply readings = .ok siteModeLevels := rfl
  have grouped : readings.groupRows levelsBySite.index = .ok [[0, 2, 3], [1, 4]] := rfl
  obtain ⟨groups, ofRows, spreads⟩ := (apply_spreads levelsBySite readings siteLevels applied).2
    "total" siteModeLevels wellFormed fresh appliedFiner
  cases ofRows.symm.trans grouped
  exact ⟨applied, wellFormed, fresh, appliedFiner, spreads⟩

/-- A reading without a mode. -/
def unlabelled : Table :=
  { columns := [⟨"mode", [.null]⟩, ⟨"level", [.integer 1]⟩], rowCount := 1 }

/-- A pivot without index columns. -/
def levelsByMode : Pivot :=
  { index := [], column := "mode", value := "level", function := .count }

/-- The reading is in a group, and the aggregate by the whole key has a line for it, but the pivot
has no row. -/
theorem apply_unlabelled :
    unlabelled.WellFormed ∧ unlabelled.groupRows levelsByMode.index = .ok [[0]] ∧
      (levelsByMode.byWholeKey "total").apply unlabelled =
        .ok ⟨[⟨"mode", [.null]⟩, ⟨"total", [.integer 1]⟩], 1⟩ ∧
      levelsByMode.apply unlabelled = .ok ⟨[], 0⟩ :=
  ⟨⟨by decide, by decide⟩, rfl, rfl, rfl⟩

end Pivot

end TableFlow
