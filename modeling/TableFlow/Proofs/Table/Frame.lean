import TableFlow.Proofs.Table.Columns

/-!
# What writing columns leaves alone

Columns are written into a table one after the other, each in the place of the one with its name or
at the end.  Seen from outside only the names of the written columns matter: the rows stay, new
names come behind the old ones in the order in which they are first written, and every other column
is as it was.  This can be said of one column and carries over to several, whatever they overwrite.

Main statement: `WellFormed.frames_withColumns`.
-/

namespace TableFlow.Table

/-- A table differs from another one by columns written under some names at most.  The names that
were not there follow the others, in order of first occurrence. -/
structure Frames (table output : Table) (written : List String) : Prop where
  rowCount_eq : output.rowCount = table.rowCount
  names_eq : output.names =
    table.names ++ (written.filter fun name => !table.names.contains name).eraseDups
  column?_eq : ∀ name, name ∉ written → output.column? name = table.column? name

variable {table middle output : Table}

/-- A table that stays as it is, whatever names it has are counted as written. -/
theorem frames_self {written : List String} (known : ∀ name ∈ written, name ∈ table.names) :
    table.Frames table written where
  rowCount_eq := rfl
  names_eq := by
    have none : (written.filter fun name => !table.names.contains name) = [] := by
      rw [List.filter_eq_nil_iff]
      intro name member
      simp [known name member]
    rw [none, List.eraseDups_nil, List.append_nil]
  column?_eq := by
    intro name other
    rfl

/-- The names written first are known by the time the others are written. -/
theorem eraseDups_filter_append (known first second : List String) :
    ((first ++ second).filter fun name => !known.contains name).eraseDups =
      (first.filter fun name => !known.contains name).eraseDups ++
        (second.filter fun name =>
          !(known ++ (first.filter fun name => !known.contains name).eraseDups).contains name
          ).eraseDups := by
  rw [List.filter_append, List.eraseDups_append, List.removeAll, List.filter_filter]
  congr 3
  funext name
  by_cases before : name ∈ known <;> simp [before, List.mem_eraseDups]

theorem Frames.trans {first second : List String} (before : table.Frames middle first)
    (after : middle.Frames output second) : table.Frames output (first ++ second) where
  rowCount_eq := after.rowCount_eq.trans before.rowCount_eq
  names_eq := by
    rw [after.names_eq, before.names_eq, List.append_assoc, eraseDups_filter_append]
  column?_eq := by
    intro name other
    rw [List.mem_append, not_or] at other
    rw [after.column?_eq name other.2, before.column?_eq name other.1]

theorem map_name_putColumn (columns : List Column) (column : Column) :
    (putColumn columns column).map Column.name =
      if column.name ∈ columns.map Column.name then columns.map Column.name
      else columns.map Column.name ++ [column.name] := by
  induction columns with
  | nil => simp [putColumn]
  | cons first rest ih =>
      rw [putColumn]
      split
      · rename_i same
        simp [same]
      · rename_i different
        simp only [List.map_cons, ih, List.mem_cons, Ne.symm different, false_or]
        split <;> rfl

theorem columns_of_withColumn {column : Column} (added : table.withColumn column = .ok output) :
    output.columns = putColumn table.columns column := by
  rw [withColumn] at added
  split at added
  · cases added
  · exact (ofColumns_eq_ok_iff.1 added).1

/-- The column of a name after a column was written. -/
theorem column?_of_withColumn {column : Column} (added : table.withColumn column = .ok output)
    (name : String) :
    output.column? name = if column.name = name then some column else table.column? name := by
  rw [column?, columns_of_withColumn added, find?_putColumn]
  rfl

/-- The column of a name is the one written last under it, or the one that was there. -/
theorem column?_of_withColumns {columns : List Column}
    (added : table.withColumns columns = .ok output) (name : String) :
    output.column? name =
      (columns.reverse.find? fun column => column.name == name).or (table.column? name) := by
  induction columns generalizing table with
  | nil =>
      cases added
      rfl
  | cons column rest ih =>
      rw [withColumns] at added
      split at added
      · cases added
      · rename_i next addedFirst
        rw [ih added, column?_of_withColumn addedFirst, List.reverse_cons, List.find?_append,
          Option.or_assoc]
        by_cases same : column.name = name <;> simp [same]

theorem cellAt_of_withColumns {columns : List Column}
    (added : table.withColumns columns = .ok output) (row : Nat) (name : String) :
    output.cellAt row name =
      ((columns.reverse.find? fun column => column.name == name).map fun column =>
        column.cellAt row).getD (table.cellAt row name) := by
  rw [cellAt, column?_of_withColumns added, cellAt]
  cases columns.reverse.find? fun column => column.name == name <;> rfl

theorem WellFormed.rowCount_of_withColumn (wellFormed : table.WellFormed) {column : Column}
    (fits : column.cells.length = table.rowCount) (added : table.withColumn column = .ok output) :
    output.rowCount = table.rowCount := by
  obtain ⟨built, addedBuilt, rowCount⟩ := wellFormed.exists_withColumn column fits
  rw [added, Except.ok.injEq] at addedBuilt
  exact addedBuilt ▸ rowCount

/-- A column with a cell for every row is written under its own name. -/
theorem WellFormed.frames_withColumn (wellFormed : table.WellFormed) {column : Column}
    (fits : column.cells.length = table.rowCount) (added : table.withColumn column = .ok output) :
    table.Frames output [column.name] where
  rowCount_eq := wellFormed.rowCount_of_withColumn fits added
  names_eq := by
    have namesEq : output.names =
        if column.name ∈ table.names then table.names else table.names ++ [column.name] := by
      rw [names, columns_of_withColumn added, map_name_putColumn]
      rfl
    rw [namesEq]
    split
    · rename_i known
      simp [known]
    · rename_i unknown
      simp [unknown, List.eraseDups_cons]
  column?_eq := by
    intro name other
    rw [column?_of_withColumn added, if_neg]
    rintro rfl
    exact other List.mem_cons_self

/-- Columns with a cell for every row are written under their own names. -/
theorem WellFormed.frames_withColumns (wellFormed : table.WellFormed) {columns : List Column}
    (fit : ∀ column ∈ columns, column.cells.length = table.rowCount)
    (added : table.withColumns columns = .ok output) :
    table.Frames output (columns.map Column.name) := by
  induction columns generalizing table with
  | nil =>
      cases added
      exact frames_self (by simp)
  | cons column rest ih =>
      rw [withColumns] at added
      split at added
      · cases added
      · rename_i next addedFirst
        rw [List.forall_mem_cons] at fit
        have first := wellFormed.frames_withColumn fit.1 addedFirst
        have nextWellFormed := givesWellFormed_withColumn table column next addedFirst
        exact first.trans (ih nextWellFormed (first.rowCount_eq ▸ fit.2) added)

end TableFlow.Table
