import TableFlow.Pipeline.Combine

/-!
# Operations on tables keep them well formed

`Table.ofColumns` is the one constructor that checks what it is given: it accepts some columns
exactly when their names differ and their lengths agree.  The operations that go through it need no
more than that.  The others (dropping columns, taking rows, choosing no column at all) keep what the
table they start from already has.

Main statement: `ofColumns_eq_ok_iff`, the exact condition under which a table can be built.
-/

namespace TableFlow

/-- A computation gives no ill-formed table: it fails, or its table is well formed. -/
def GivesWellFormed (result : Except StepError Table) : Prop :=
  ∀ table, result = .ok table → table.WellFormed

@[simp] theorem givesWellFormed_error (error : StepError) :
    GivesWellFormed (.error error) := by
  intro table equal
  cases equal

@[simp] theorem givesWellFormed_ok {table : Table} :
    GivesWellFormed (.ok table) ↔ table.WellFormed := by
  constructor
  · intro gives
    exact gives table rfl
  · intro wellFormed other equal
    cases equal
    exact wellFormed

namespace Table

/-- The table without columns and rows is well formed. -/
@[simp] theorem wellFormed_empty : empty.WellFormed where
  nodup_names := List.nodup_nil
  length_cells := by simp [empty]

/-- A table without columns is well formed whatever its count of rows. -/
theorem wellFormed_of_columns_eq_nil {table : Table} (none : table.columns = []) :
    table.WellFormed where
  nodup_names := by simp [names, none]
  length_cells := by simp [none]

/-- The check on columns passes exactly when no name has been seen before or stands twice, and every
column has the wanted length. -/
theorem checkColumns_eq_ok_iff {rows : Nat} {seen : List String} {columns : List Column} :
    checkColumns rows seen columns = .ok () ↔
      (columns.map Column.name).Nodup ∧
        (∀ column ∈ columns, column.name ∉ seen ∧ column.cells.length = rows) := by
  induction columns generalizing seen with
  | nil => simp [checkColumns]
  | cons column rest ih =>
      rw [checkColumns]
      split
      · rename_i known
        simp only [List.contains_eq_mem, decide_eq_true_eq] at known
        simp [known]
      · rename_i fresh
        simp only [List.contains_eq_mem, decide_eq_true_eq] at fresh
        split
        · rename_i misfit
          simp [misfit]
        · rename_i fits
          have lengthEq : column.cells.length = rows := Decidable.not_not.1 fits
          rw [ih]
          constructor
          · rintro ⟨nodup, others⟩
            refine ⟨?_, ?_⟩
            · rw [List.map_cons, List.nodup_cons]
              refine ⟨?_, nodup⟩
              intro membership
              obtain ⟨other, otherMem, nameEq⟩ := List.mem_map.1 membership
              exact (others other otherMem).1 (by simp [nameEq])
            · intro other otherMem
              rcases List.mem_cons.1 otherMem with rfl | later
              · exact ⟨fresh, lengthEq⟩
              · have both := others other later
                exact ⟨fun known => both.1 (List.mem_cons_of_mem _ known), both.2⟩
          · rintro ⟨nodup, others⟩
            rw [List.map_cons, List.nodup_cons] at nodup
            refine ⟨nodup.2, ?_⟩
            intro other otherMem
            have both := others other (List.mem_cons_of_mem _ otherMem)
            refine ⟨?_, both.2⟩
            intro known
            rcases List.mem_cons.1 known with nameEq | before
            · exact nodup.1 (List.mem_map.2 ⟨other, otherMem, nameEq⟩)
            · exact both.1 before

/-- Columns form a table exactly when that table is well formed; its count of rows is the length of
the first column. -/
theorem ofColumns_eq_ok_iff {columns : List Column} {table : Table} :
    ofColumns columns = .ok table ↔
      table.columns = columns ∧
        table.rowCount = (columns.head?.map fun column => column.cells.length).getD 0 ∧
        table.WellFormed := by
  have unfolded : ofColumns columns =
      (checkColumns ((columns.head?.map fun column => column.cells.length).getD 0) [] columns).map
        fun _ => ⟨columns, (columns.head?.map fun column => column.cells.length).getD 0⟩ := by
    rw [ofColumns.eq_def]
    cases columns with
    | nil => rfl
    | cons first rest =>
        simp only [List.head?_cons, Option.map_some, Option.getD_some]
        cases checkColumns first.cells.length [] (first :: rest) <;> rfl
  rw [unfolded]
  constructor
  · intro built
    cases checked :
        checkColumns ((columns.head?.map fun column => column.cells.length).getD 0) [] columns with
    | error error =>
        rw [checked] at built
        cases built
    | ok done =>
        obtain ⟨nodup, lengths⟩ := checkColumns_eq_ok_iff.1 checked
        rw [checked] at built
        cases built
        exact ⟨rfl, rfl, nodup, fun column membership => (lengths column membership).2⟩
  · rintro ⟨columnsEq, rowsEq, wellFormed⟩
    have checked : checkColumns table.rowCount [] columns = .ok () := by
      rw [checkColumns_eq_ok_iff, ← columnsEq]
      refine ⟨wellFormed.nodup_names, ?_⟩
      intro column membership
      exact ⟨List.not_mem_nil, wellFormed.length_cells column membership⟩
    rw [← rowsEq, checked, ← columnsEq]
    rfl

@[simp] theorem givesWellFormed_ofColumns (columns : List Column) :
    GivesWellFormed (ofColumns columns) := by
  intro table built
  exact (ofColumns_eq_ok_iff.1 built).2.2

@[simp] theorem givesWellFormed_withColumn (table : Table) (column : Column) :
    GivesWellFormed (table.withColumn column) := by
  rw [withColumn]
  split <;> simp

@[simp] theorem givesWellFormed_renameColumn (table : Table) (old new : String) :
    GivesWellFormed (table.renameColumn old new) := by
  rw [renameColumn]
  split <;> simp

@[simp] theorem givesWellFormed_select (table : Table) (names : List String) :
    GivesWellFormed (table.select names) := by
  rw [select]
  split
  · simp
  · rw [givesWellFormed_ok]
    exact wellFormed_of_columns_eq_nil rfl
  · simp

@[simp] theorem givesWellFormed_appendTables (tables : List Table) :
    GivesWellFormed (appendTables tables) :=
  givesWellFormed_ofColumns _

/-- Adding columns one after the other; without columns to add the table stays as it is. -/
theorem givesWellFormed_withColumns {table : Table} (wellFormed : table.WellFormed)
    (columns : List Column) : GivesWellFormed (table.withColumns columns) := by
  induction columns generalizing table with
  | nil => simpa [withColumns] using wellFormed
  | cons column rest ih =>
      rw [withColumns]
      split
      · simp
      · rename_i next added
        exact ih (givesWellFormed_withColumn table column next added)

theorem dropColumn_sublist (name : String) (columns : List Column) :
    (dropColumn name columns).Sublist columns := by
  induction columns with
  | nil => exact List.Sublist.slnil
  | cons first rest ih =>
      rw [dropColumn]
      split
      · exact List.sublist_cons_self first rest
      · exact ih.cons_cons first

theorem givesWellFormed_withoutColumn {table : Table} (wellFormed : table.WellFormed)
    (name : String) : GivesWellFormed (table.withoutColumn name) := by
  rw [withoutColumn]
  split
  · rw [givesWellFormed_ok]
    have sublist := dropColumn_sublist name table.columns
    exact
      { nodup_names := wellFormed.nodup_names.sublist (sublist.map Column.name)
        length_cells := fun column membership =>
          wellFormed.length_cells column (sublist.subset membership) }
  · simp

/-- Taking rows keeps the names, and gives every column one cell for each row taken. -/
theorem WellFormed.takeRows {table : Table} (wellFormed : table.WellFormed) (rows : List Nat) :
    (table.takeRows rows).WellFormed where
  nodup_names := by
    have namesEq : (table.takeRows rows).names = table.names := by
      simp [names, Table.takeRows, Column.takeRows, Function.comp_def]
    rw [namesEq]
    exact wellFormed.nodup_names
  length_cells := by
    intro column membership
    obtain ⟨source, _, rfl⟩ := List.mem_map.1 membership
    simp [Column.takeRows, Table.takeRows]

theorem givesWellFormed_addRightColumns (pairs : List (Nat × Option Nat)) {table : Table}
    (wellFormed : table.WellFormed) (columns : List Column) :
    GivesWellFormed (addRightColumns pairs table columns) := by
  induction columns generalizing table with
  | nil => simpa [addRightColumns] using wellFormed
  | cons column rest ih =>
      simp only [addRightColumns]
      split
      · simp
      · rename_i next added
        exact ih (givesWellFormed_withColumn table _ next added)

/-- A join of a well-formed left table is well formed; of the right table nothing is needed, since
its columns pass the check one by one. -/
theorem givesWellFormed_joinTables (kind : JoinKind) (keys : List (String × String))
    {left : Table} (wellFormed : left.WellFormed) (right : Table) :
    GivesWellFormed (joinTables kind keys left right) := by
  rw [joinTables]
  split
  · simp
  · split
    · simp
    · simp only
      split
      · rw [givesWellFormed_ok]
        exact wellFormed.takeRows _
      · exact givesWellFormed_addRightColumns _ (wellFormed.takeRows _) _

end Table

end TableFlow
