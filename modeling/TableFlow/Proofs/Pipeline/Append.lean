import Mathlib.Algebra.Order.BigOperators.Group.List
import Mathlib.Algebra.Order.Ring.Nat
import Mathlib.Data.List.Nodup
import TableFlow.Pipeline.Run
import TableFlow.Proofs.Table.Columns
import TableFlow.Proofs.Table.Rows

/-!
# Appended tables

An append stacks the tables of its sources under the current one.  Every column of the result has a
cell for each row of each table, so the rows of a table stay together and below those of the tables
before it.

The rows of the result are counted by its first column.  A table without columns still has rows, and
they count as long as some table has a column.  If none has one, there is nothing to count them by
and the result has no rows.

Main statements: `Step.execute_append_stacks` and `Step.execute_append_conserves_iff`.
-/

namespace TableFlow

/-- Names are added behind the ones already met, each where it first appears. -/
theorem addNames_eq (met names : List String) :
    addNames met names = met ++ (names.filter fun name => !met.contains name).eraseDups := by
  induction names generalizing met with
  | nil => simp [addNames]
  | cons name rest ih =>
      rw [addNames, List.foldl_cons, ← addNames]
      split
      · rename_i known
        rw [ih, List.filter_cons_of_neg (by simpa using known)]
      · rename_i fresh
        have others : (fun other => !(met ++ [name]).contains other) =
            fun other => (!other == name) && !met.contains other := by
          funext other
          by_cases same : other = name <;> simp [same]
        rw [ih, List.filter_cons_of_pos (by simpa using fresh), List.eraseDups_cons,
          List.filter_filter, others, List.append_assoc, List.singleton_append]

theorem nodup_addNames {met : List String} (nodup : met.Nodup) (names : List String) :
    (addNames met names).Nodup := by
  induction names generalizing met with
  | nil => exact nodup
  | cons name rest ih =>
      rw [addNames, List.foldl_cons, ← addNames]
      split
      · exact ih nodup
      · rename_i fresh
        apply ih
        exact nodup.append (List.nodup_singleton name) (by simpa using fresh)

theorem stackedNames_eq_addNames (tables : List Table) :
    stackedNames tables = addNames [] (tables.flatMap Table.names) :=
  List.foldl_flatMap.symm

/-- The names of stacked tables are all their names, each where it first appears. -/
theorem stackedNames_eq (tables : List Table) :
    stackedNames tables = (tables.flatMap Table.names).eraseDups := by
  rw [stackedNames_eq_addNames, addNames_eq]
  simp

theorem nodup_stackedNames (tables : List Table) : (stackedNames tables).Nodup := by
  rw [stackedNames_eq_addNames]
  exact nodup_addNames List.nodup_nil _

variable {table : Table} {tables : List Table}

/-- Every column of stacked tables has a cell for each row of each table. -/
theorem length_stackCells (wellFormed : ∀ table ∈ tables, table.WellFormed) (name : String) :
    (stackCells tables name).length = (tables.map Table.rowCount).sum := by
  induction tables with
  | nil => rfl
  | cons table rest ih =>
      rw [List.forall_mem_cons] at wellFormed
      rw [stackCells_cons wellFormed.1, List.length_append, ih wellFormed.2, List.map_cons,
        List.sum_cons, List.length_map, List.length_range]

theorem stackedNames_eq_nil_iff :
    stackedNames tables = [] ↔ ∀ table ∈ tables, table.columns = [] := by
  rw [stackedNames_eq, List.eq_nil_iff_forall_not_mem]
  simp only [List.mem_eraseDups]
  rw [← List.eq_nil_iff_forall_not_mem, List.flatMap_eq_nil_iff]
  simp only [Table.names, List.map_eq_nil_iff]

theorem map_name_stacked (tables : List Table) :
    ((stackedNames tables).map fun name =>
        Column.mk name (stackCells tables name)).map Column.name =
      stackedNames tables := by
  rw [List.map_map]
  exact List.map_id _

/-- Well-formed tables can always be appended.  With a column the result has the rows of all of
them. -/
theorem exists_appendTables (wellFormed : ∀ table ∈ tables, table.WellFormed) :
    ∃ output, appendTables tables = .ok output ∧ output.names = stackedNames tables ∧
      (stackedNames tables ≠ [] → output.rowCount = (tables.map Table.rowCount).sum) := by
  have nodup : (((stackedNames tables).map fun name => Column.mk name (stackCells tables name)).map
      Column.name).Nodup := by
    rw [map_name_stacked]
    exact nodup_stackedNames tables
  have lengths :
      ∀ column ∈ (stackedNames tables).map fun name => Column.mk name (stackCells tables name),
      column.cells.length = (tables.map Table.rowCount).sum := by
    rw [List.forall_mem_map]
    intro name _
    exact length_stackCells wellFormed name
  obtain ⟨output, appended, columns, rowCount⟩ := Table.exists_ofColumns nodup lengths
  refine ⟨output, appended, ?_, fun some => rowCount (mt List.map_eq_nil_iff.1 some)⟩
  rw [Table.names, columns, map_name_stacked]

/-- Tables without columns have no first column to count their rows by. -/
theorem appendTables_of_bare (bare : ∀ table ∈ tables, table.columns = []) :
    appendTables tables = .ok Table.empty := by
  rw [appendTables, stackedNames_eq_nil_iff.2 bare]
  rfl

/-- A row of an appended table has its own cells, below the rows of the tables before it. -/
theorem cellAt_appended {before after : List Table} {current output : Table}
    (wellFormed : ∀ table ∈ before ++ current :: after, table.WellFormed)
    (appended : appendTables (before ++ current :: after) = .ok output) {row : Nat}
    (inside : row < current.rowCount) (name : String) :
    output.cellAt ((before.map Table.rowCount).sum + row) name = current.cellAt row name := by
  obtain ⟨columns, -, outputWellFormed⟩ := Table.ofColumns_eq_ok_iff.1 appended
  have names : output.names = stackedNames (before ++ current :: after) := by
    rw [Table.names, columns, map_name_stacked]
  by_cases known : name ∈ output.names
  · have member : ⟨name, stackCells (before ++ current :: after) name⟩ ∈ output.columns := by
      rw [columns]
      exact List.mem_map_of_mem (names ▸ known)
    rw [List.forall_mem_append, List.forall_mem_cons] at wellFormed
    rw [Table.cellAt_eq_of_column (outputWellFormed.column_of_mem member), Column.cellAt,
      ← length_stackCells wellFormed.1 name, List.getD_eq_getElem?_getD,
      getElem?_stackCells before after wellFormed.2.1 name inside, Option.getD_some]
  · have unknown : name ∉ current.names := by
      intro inCurrent
      apply known
      rw [names, stackedNames_eq, List.mem_eraseDups, List.mem_flatMap]
      exact ⟨current, by simp, inCurrent⟩
    rw [Table.cellAt_of_not_mem known, Table.cellAt_of_not_mem unknown]

variable {environment : Environment} {depth : Nat} {sources : List Source}

theorem Source.resolveAll_of_forall₂
    (resolved : List.Forall₂
      (fun source table => (source.resolve environment depth).result = .ok table) sources tables) :
    (Source.resolveAll environment depth sources).result = .ok tables := by
  induction resolved with
  | nil => rfl
  | cons first _ ih => simp only [resolveAll, first, ih]

namespace Step

theorem execute_append
    (resolved : List.Forall₂
      (fun source table => (source.resolve environment depth).result = .ok table) sources tables)
    (table : Table) :
    ((Step.append sources).execute environment depth table).result =
      appendTables (table :: tables) := by
  simp only [Step.execute, Source.resolveAll_of_forall₂ resolved]

/-- An append stacks its tables if one of them has a column.  The names of the result are those of
all tables in order of first appearance, it has the rows of all tables, and each row has the cells
that it has in its own table, with empty cells under the names that this table lacks. -/
theorem execute_append_stacks (table : Table)
    (wellFormed : ∀ stacked ∈ table :: tables, stacked.WellFormed)
    (resolved : List.Forall₂
      (fun source table => (source.resolve environment depth).result = .ok table) sources tables)
    (occupied : ∃ stacked ∈ table :: tables, stacked.columns ≠ []) :
    ∃ output, ((Step.append sources).execute environment depth table).result = .ok output ∧
      output.WellFormed ∧ output.names = ((table :: tables).flatMap Table.names).eraseDups ∧
      output.rowCount = ((table :: tables).map Table.rowCount).sum ∧
      ∀ before current after, table :: tables = before ++ current :: after →
        ∀ row < current.rowCount, ∀ name,
          output.cellAt ((before.map Table.rowCount).sum + row) name = current.cellAt row name := by
  obtain ⟨output, appended, names, rowCount⟩ := exists_appendTables wellFormed
  refine ⟨output, (execute_append resolved table).trans appended,
    Table.givesWellFormed_appendTables _ _ appended, names.trans (stackedNames_eq _), rowCount ?_,
    ?_⟩
  · rw [Ne, stackedNames_eq_nil_iff]
    obtain ⟨stacked, member, column⟩ := occupied
    exact fun bare => column (bare stacked member)
  · intro before current after split row inside name
    rw [split] at wellFormed appended
    exact cellAt_appended wellFormed appended inside name

/-- Sales of a shop. -/
def ownSales : Table :=
  { columns := [⟨"item", [.text "pen", .text "ink"]⟩, ⟨"count", [.integer 10, .null]⟩]
    rowCount := 2 }

/-- Sales of another shop, which does not count them. -/
def otherSales : Table :=
  { columns :=
      [⟨"region", [.text "EU", .text "US", .text "US"]⟩,
       ⟨"item", [.null, .text "cup", .text "ink"]⟩]
    rowCount := 3 }

/-- The rows of the other shop without their columns. -/
def otherRows : Table :=
  { columns := [], rowCount := 3 }

/-- An environment in which every domain is the other shop. -/
def shopEnvironment : Environment :=
  { retrieve := fun _ => .ok otherSales }

/-- Sales of the other shop with all columns dropped. -/
def bareSource : Source :=
  .inline [.domain "other", .transform (.delete ⟨["item", "region"]⟩)]

theorem wellFormed_shops : ∀ stacked ∈ [ownSales, otherRows, otherSales], stacked.WellFormed := by
  simp only [List.forall_mem_cons, List.not_mem_nil, false_implies, implies_true, and_true]
  exact ⟨⟨by decide, by decide⟩, Table.wellFormed_of_columns_eq_nil rfl, ⟨by decide, by decide⟩⟩

theorem resolve_shops : List.Forall₂
    (fun source table => (Source.resolve shopEnvironment 0 source).result = .ok table)
    [bareSource, .domain "other"] [otherRows, otherSales] :=
  .cons rfl (.cons rfl .nil)

/-- The rows without columns keep the other shop's sales apart from the ones above. -/
theorem execute_append_stacks_shops :
    ∃ output,
      ((Step.append [bareSource, .domain "other"]).execute shopEnvironment 0 ownSales).result =
        .ok output ∧
      output.names = ["item", "count", "region"] ∧ output.rowCount = 2 + (3 + 3) ∧
      output.cellAt (2 + 2) "item" = .null ∧ output.cellAt (2 + 3 + 1) "item" = .text "cup" ∧
      output.cellAt (2 + 3 + 1) "count" = .null := by
  obtain ⟨output, executed, -, names, rows, cells⟩ :=
    execute_append_stacks ownSales wellFormed_shops resolve_shops
      ⟨ownSales, by simp, by simp [ownSales]⟩
  exact ⟨output, executed, names, rows,
    cells [ownSales] otherRows [otherSales] rfl 2 (by decide) "item",
    cells [ownSales, otherRows] otherSales [] rfl 1 (by decide) "item",
    cells [ownSales, otherRows] otherSales [] rfl 1 (by decide) "count"⟩

/-- An append always succeeds, and it conserves the rows exactly if some table has a column or none
has a row.  Of tables without columns nothing is left. -/
theorem execute_append_conserves_iff (table : Table)
    (wellFormed : ∀ stacked ∈ table :: tables, stacked.WellFormed)
    (resolved : List.Forall₂
      (fun source table => (source.resolve environment depth).result = .ok table) sources tables) :
    ∃ output, ((Step.append sources).execute environment depth table).result = .ok output ∧
      (output.rowCount = ((table :: tables).map Table.rowCount).sum ↔
        (∃ stacked ∈ table :: tables, stacked.columns ≠ []) ∨
          ∀ stacked ∈ table :: tables, stacked.rowCount = 0) ∧
      ((∀ stacked ∈ table :: tables, stacked.columns = []) → output = Table.empty) := by
  obtain ⟨output, appended, -, rowCount⟩ := exists_appendTables wellFormed
  have nothing (bare : ∀ stacked ∈ table :: tables, stacked.columns = []) : output = Table.empty :=
    Except.ok.inj (appended.symm.trans (appendTables_of_bare bare))
  refine ⟨output, (execute_append resolved table).trans appended, ?_, nothing⟩
  by_cases bare : ∀ stacked ∈ table :: tables, stacked.columns = []
  · have noColumn : ¬ ∃ stacked ∈ table :: tables, stacked.columns ≠ [] := by
      rintro ⟨stacked, member, column⟩
      exact column (bare stacked member)
    rw [nothing bare, or_iff_right noColumn, Table.empty, eq_comm, List.sum_eq_zero_iff,
      List.forall_mem_map]
  · have conserved := rowCount (mt stackedNames_eq_nil_iff.1 bare)
    push Not at bare
    simp only [conserved, bare, true_or]

/-- Rows without columns are counted when one of the tables has a column. -/
theorem execute_append_conserves_iff_shops :
    ∃ output,
      ((Step.append [bareSource, .domain "other"]).execute shopEnvironment 0 ownSales).result =
        .ok output ∧ output.rowCount = 2 + (3 + 3) := by
  obtain ⟨output, executed, conserves, -⟩ :=
    execute_append_conserves_iff ownSales wellFormed_shops resolve_shops
  exact ⟨output, executed, conserves.2 (.inl ⟨ownSales, by simp, by simp [ownSales]⟩)⟩

/-- The rows of a shop without their columns. -/
def ownRows : Table :=
  { columns := [], rowCount := 2 }

/-- Rows without columns are lost when they are stacked on rows without columns. -/
theorem execute_append_bareRows :
    (Delete.mk ["count", "item"]).apply ownSales = .ok ownRows ∧ ownRows.WellFormed ∧
      (bareSource.resolve shopEnvironment 0).result = .ok otherRows ∧ otherRows.WellFormed ∧
      ((Step.append [bareSource]).execute shopEnvironment 0 ownRows).result = .ok Table.empty ∧
      Table.empty.rowCount ≠ ownRows.rowCount + otherRows.rowCount :=
  ⟨rfl, Table.wellFormed_of_columns_eq_nil rfl, rfl, Table.wellFormed_of_columns_eq_nil rfl, rfl,
    by decide⟩

end Step

end TableFlow
