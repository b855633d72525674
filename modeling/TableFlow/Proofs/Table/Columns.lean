import TableFlow.Proofs.Table.Rows
import TableFlow.Proofs.Table.WellFormed

/-!
# Columns put into tables

A column put into a table is the one found under its name, and the columns of other names stay.  It
fits into a well-formed table if it has a cell for every row.
-/

namespace TableFlow.Table

theorem mem_putColumn {columns : List Column} {column other : Column}
    (member : other ∈ putColumn columns column) : other = column ∨ other ∈ columns := by
  induction columns with
  | nil => exact .inl (List.mem_singleton.1 member)
  | cons first rest ih =>
      rw [putColumn] at member
      split at member
      · rcases List.mem_cons.1 member with same | later
        · exact .inl same
        · exact .inr (List.mem_cons_of_mem first later)
      · rcases List.mem_cons.1 member with same | later
        · exact .inr (same ▸ List.mem_cons_self)
        · exact (ih later).imp_right (List.mem_cons_of_mem first)

theorem nodup_names_putColumn {columns : List Column} (nodup : (columns.map Column.name).Nodup)
    (column : Column) : ((putColumn columns column).map Column.name).Nodup := by
  induction columns with
  | nil => simp [putColumn]
  | cons first rest ih =>
      rw [putColumn]
      split
      · rename_i same
        simpa [same] using nodup
      · rename_i different
        rw [List.map_cons, List.nodup_cons] at nodup ⊢
        refine ⟨?_, ih nodup.2⟩
        intro member
        obtain ⟨other, inRest, nameEq⟩ := List.mem_map.1 member
        rcases mem_putColumn inRest with rfl | before
        · exact different nameEq.symm
        · exact nodup.1 (nameEq ▸ List.mem_map_of_mem before)

theorem putColumn_ne_nil (columns : List Column) (column : Column) :
    putColumn columns column ≠ [] := by
  cases columns with
  | nil => simp [putColumn]
  | cons first rest =>
      rw [putColumn]
      split <;> simp

theorem putColumn_of_not_mem {columns : List Column} {column : Column}
    (fresh : column.name ∉ columns.map Column.name) :
    putColumn columns column = columns ++ [column] := by
  induction columns with
  | nil => rfl
  | cons first rest ih =>
      rw [List.map_cons, List.mem_cons, not_or] at fresh
      rw [putColumn, if_neg (Ne.symm fresh.1), ih fresh.2, List.cons_append]

/-- Columns under names that differ and are free are put behind the others. -/
theorem foldl_putColumn_of_nodup {columns added : List Column}
    (nodup : ((columns ++ added).map Column.name).Nodup) :
    added.foldl putColumn columns = columns ++ added := by
  induction added generalizing columns with
  | nil => rw [List.foldl_nil, List.append_nil]
  | cons column rest ih =>
      have fresh : column.name ∉ columns.map Column.name := by
        rw [List.map_append, List.nodup_append] at nodup
        intro before
        exact nodup.2.2 _ before _ (List.mem_map_of_mem List.mem_cons_self) rfl
      rw [List.append_cons] at nodup ⊢
      rw [List.foldl_cons, putColumn_of_not_mem fresh, ih nodup]

theorem find?_of_mem {columns : List Column} (nodup : (columns.map Column.name).Nodup)
    {column : Column} (member : column ∈ columns) :
    columns.find? (fun other => other.name == column.name) = some column := by
  induction columns with
  | nil => cases member
  | cons first rest ih =>
      rw [List.map_cons, List.nodup_cons] at nodup
      rcases List.mem_cons.1 member with rfl | later
      · exact List.find?_cons_of_pos (beq_self_eq_true _)
      · have different : first.name ≠ column.name := by
          intro same
          exact nodup.1 (same ▸ List.mem_map_of_mem later)
        rw [List.find?_cons_of_neg (by simpa using different)]
        exact ih nodup.2 later

/-- The column that was put last under a name is the one found under it. -/
theorem find?_putColumn (columns : List Column) (column : Column) (name : String) :
    (putColumn columns column).find? (fun other => other.name == name) =
      if column.name = name then some column
      else columns.find? fun other => other.name == name := by
  induction columns with
  | nil => grind [putColumn]
  | cons first rest ih => grind [putColumn]

theorem mem_foldl_putColumn {added columns : List Column} {other : Column}
    (member : other ∈ added.foldl putColumn columns) : other ∈ added ∨ other ∈ columns := by
  induction added generalizing columns with
  | nil => exact .inr member
  | cons column rest ih =>
      rcases ih member with later | before
      · exact .inl (List.mem_cons_of_mem column later)
      · rcases mem_putColumn before with rfl | earlier
        · exact .inl List.mem_cons_self
        · exact .inr earlier

theorem nodup_names_foldl_putColumn (added columns : List Column)
    (nodup : (columns.map Column.name).Nodup) :
    ((added.foldl putColumn columns).map Column.name).Nodup := by
  induction added generalizing columns with
  | nil => exact nodup
  | cons column rest ih => exact ih _ (nodup_names_putColumn nodup column)

theorem find?_foldl_putColumn (added columns : List Column) (name : String) :
    (added.foldl putColumn columns).find? (fun other => other.name == name) =
      (added.reverse.find? fun other => other.name == name).or
        (columns.find? fun other => other.name == name) := by
  induction added generalizing columns with
  | nil => rfl
  | cons column rest ih =>
      rw [List.foldl_cons, ih, find?_putColumn, List.reverse_cons, List.find?_append,
        Option.or_assoc]
      by_cases same : column.name = name <;> simp [same]

variable {rows : Nat}

/-- Columns of one length under different names make a table. -/
theorem exists_ofColumns {columns : List Column} (nodup : (columns.map Column.name).Nodup)
    (lengths : ∀ column ∈ columns, column.cells.length = rows) :
    ∃ table, ofColumns columns = .ok table ∧ table.columns = columns ∧
      (columns ≠ [] → table.rowCount = rows) := by
  cases columns with
  | nil => exact ⟨_, ofColumns_eq_ok_iff.2 ⟨rfl, rfl, wellFormed_empty⟩, rfl, by simp⟩
  | cons first rest =>
      have firstLength := lengths first List.mem_cons_self
      refine ⟨⟨first :: rest, rows⟩, ofColumns_eq_ok_iff.2 ⟨rfl, ?_, nodup, lengths⟩, rfl,
        fun _ => rfl⟩
      simp [firstLength]

/-- A well-formed table with columns is the one that its columns make. -/
theorem WellFormed.ofColumns_columns {table : Table} (wellFormed : table.WellFormed)
    (occupied : table.columns ≠ []) : ofColumns table.columns = .ok table := by
  refine ofColumns_eq_ok_iff.2 ⟨rfl, ?_, wellFormed⟩
  obtain ⟨first, rest, columns⟩ := List.exists_cons_of_ne_nil occupied
  have length := wellFormed.length_cells first (columns ▸ List.mem_cons_self)
  rw [columns, List.head?_cons, Option.map_some, Option.getD_some, length]

/-- A column with a cell for every row can be put into a table. -/
theorem WellFormed.exists_withColumn {table : Table} (wellFormed : table.WellFormed)
    (column : Column) (fits : column.cells.length = table.rowCount) :
    ∃ output, table.withColumn column = .ok output ∧ output.rowCount = table.rowCount := by
  have lengths : ∀ other ∈ putColumn table.columns column, other.cells.length = table.rowCount := by
    intro other member
    rcases mem_putColumn member with rfl | before
    · exact fits
    · exact wellFormed.length_cells other before
  obtain ⟨output, built, -, rowCount⟩ :=
    exists_ofColumns (nodup_names_putColumn wellFormed.nodup_names column) lengths
  refine ⟨output, ?_, rowCount (putColumn_ne_nil table.columns column)⟩
  rw [withColumn, if_neg (fun misfit => misfit.2 fits), built]

/-- Columns with a cell for every row can be put into a table. -/
theorem WellFormed.exists_withColumns {table : Table} (wellFormed : table.WellFormed)
    (columns : List Column) (fit : ∀ column ∈ columns, column.cells.length = table.rowCount) :
    ∃ output, table.withColumns columns = .ok output := by
  induction columns generalizing table with
  | nil => exact ⟨table, rfl⟩
  | cons column rest ih =>
      rw [List.forall_mem_cons] at fit
      obtain ⟨next, added, rowCount⟩ := wellFormed.exists_withColumn column fit.1
      rw [withColumns, added]
      apply ih (givesWellFormed_withColumn table column next added)
      rw [rowCount]
      exact fit.2

/-- Where names differ, every column is found under its name. -/
theorem WellFormed.column_of_mem {table : Table} (wellFormed : table.WellFormed) {column : Column}
    (member : column ∈ table.columns) : table.column column.name = .ok column := by
  rw [column_eq_ok_iff]
  exact find?_of_mem wellFormed.nodup_names member

theorem column_of_columns {table : Table} {columns : List Column}
    (columnsEq : table.columns = columns) {name : String} {column : Column}
    (found : columns.find? (fun other => other.name == name) = some column) :
    table.column name = .ok column := by
  rw [column_eq_ok_iff, column?, columnsEq, found]

/-- The names of a table are those under which a column is found. -/
theorem mem_names_iff {table : Table} {name : String} :
    name ∈ table.names ↔ ∃ column, table.column? name = some column := by
  rw [← Option.isSome_iff_exists, column?, List.find?_isSome, names, List.mem_map]
  simp

theorem hasColumn_iff {table : Table} {name : String} :
    table.hasColumn name = true ↔ name ∈ table.names := by
  simp [hasColumn, names]

theorem cellAt_of_not_mem {table : Table} {name : String} (absent : name ∉ table.names)
    (row : Nat) :
    table.cellAt row name = .null := by
  cases found : table.column? name with
  | none => rw [cellAt, found]
  | some column => exact absurd (mem_names_iff.2 ⟨column, found⟩) absent

section Chosen

variable {table : Table} {names : List String} {columns : List Column}

theorem map_name_of_columnsOf (found : table.columnsOf names = .ok columns) :
    columns.map Column.name = names := by
  obtain ⟨column, each, rfl⟩ := exists_of_mapM_eq_ok (Column.mk "" []) found
  rw [List.map_map]
  refine (List.map_congr_left ?_).trans names.map_id
  intro name member
  exact name_of_column (each name member)

theorem exists_column?_of_columnsOf (found : table.columnsOf names = .ok columns) {name : String}
    (member : name ∈ names) : ∃ column, table.column? name = some column := by
  obtain ⟨columnOf, each, -⟩ := exists_of_mapM_eq_ok (Column.mk "" []) found
  exact ⟨columnOf name, column_eq_ok_iff.1 (each name member)⟩

/-- Among the columns of some names stands the column of each of them. -/
theorem find?_of_columnsOf (found : table.columnsOf names = .ok columns) (name : String) :
    columns.find? (fun column => column.name == name) =
      if name ∈ names then table.column? name else none := by
  have namesEq := map_name_of_columnsOf found
  obtain ⟨column, each, rfl⟩ := exists_of_mapM_eq_ok (Column.mk "" []) found
  split
  · rename_i member
    cases first : (names.map column).find? fun column => column.name == name with
    | none =>
        rw [List.find?_eq_none, List.forall_mem_map] at first
        exact absurd (beq_iff_eq.2 (name_of_column (each name member))) (first name member)
    | some other =>
        obtain ⟨source, inNames, rfl⟩ := List.mem_map.1 (List.mem_of_find?_eq_some first)
        have same := List.find?_some first
        rw [beq_iff_eq, name_of_column (each source inNames)] at same
        rw [← same, column_eq_ok_iff.1 (each source inNames)]
  · rename_i absent
    rw [List.find?_eq_none]
    intro other member same
    exact absent (namesEq ▸ eq_of_beq same ▸ List.mem_map_of_mem member)

end Chosen

theorem column_of_withColumn {table output : Table} {column : Column}
    (added : table.withColumn column = .ok output) : output.column column.name = .ok column := by
  rw [withColumn] at added
  split at added
  · cases added
  · apply column_of_columns (ofColumns_eq_ok_iff.1 added).1
    rw [find?_putColumn, if_pos rfl]

end TableFlow.Table
