import TableFlow.Proofs.Table.ByRows
import TableFlow.Proofs.Table.Frame
import TableFlow.Transform.Basic

/-!
# Transforms that write columns

Most transforms compute columns from a table and then put them into it, so that what they compute
can be told apart from what they do to the table.  This module gives them that form.
`Transform.computed?` has the transforms that write one column, with the computation of its cells.

Filling and converting read the table as it was and write into the table as it has become, and
filling passes over a column that has no empty cell.  Neither makes a difference:
`updateColumns_eq_of_mixes` says that they write all their columns into the table.
-/

namespace TableFlow

open TableFlow.Table

/-- A table with a column of computed cells. -/
def Table.withComputed (table : Table) (name : String) (cells : Except StepError (List Cell)) :
    Except StepError Table :=
  cells.bind fun cells => table.withColumn ⟨name, cells⟩

variable {table : Table}

/-- The cells of the copy. -/
def Duplicate.cells (duplicate : Duplicate) (table : Table) : Except StepError (List Cell) :=
  (table.column duplicate.column).map Column.cells

theorem Duplicate.apply_eq_withComputed (duplicate : Duplicate) (table : Table) :
    duplicate.apply table = table.withComputed duplicate.newColumn (duplicate.cells table) := by
  rw [apply, withComputed, cells]
  cases table.column duplicate.column <;> rfl

/-- The joined texts. -/
def Concatenate.cells (concatenate : Concatenate) (table : Table) : Except StepError (List Cell) :=
  (table.columnsOf concatenate.columns).map fun columns =>
    (List.range table.rowCount).map fun row =>
      Cell.text (concatenate.separator.intercalate
        (columns.map fun column => (column.cellAt row).render))

theorem Concatenate.apply_eq_withComputed (concatenate : Concatenate) (table : Table) :
    concatenate.apply table =
      table.withComputed concatenate.newColumn (concatenate.cells table) := by
  rw [apply, withComputed, cells]
  cases table.columnsOf concatenate.columns <;> rfl

/-- The texts in a case. -/
def ChangeCase.cells (change : ChangeCase) (letterCase : LetterCase) (table : Table) :
    Except StepError (List Cell) :=
  ((table.column change.column).map Column.cells).bind
    (List.mapM (changeCell change.column letterCase))

theorem ChangeCase.apply_eq_withComputed (change : ChangeCase) (letterCase : LetterCase)
    (table : Table) :
    change.apply letterCase table =
      table.withComputed change.column (change.cells letterCase table) := by
  rw [apply, withComputed, cells]
  cases table.column change.column with
  | error error => rfl
  | ok column =>
      simp only [Except.map, Except.bind]
      cases column.cells.mapM (changeCell change.column letterCase) <;> rfl

/-- The cells after replacement. -/
def Replace.cells (replace : Replace) (table : Table) : Except StepError (List Cell) :=
  ((table.column replace.column).map Column.cells).map (List.map (replaceCell replace.pairs))

theorem Replace.apply_eq_withComputed (replace : Replace) (table : Table) :
    replace.apply table = table.withComputed replace.column (replace.cells table) := by
  rw [apply, withComputed, cells]
  cases table.column replace.column <;> rfl

theorem Derive.apply_eq_withComputed (derive : Derive) (table : Table) :
    derive.apply table =
      table.withComputed derive.newColumn (formulaCells derive.formula table) := by
  rw [apply, withComputed]
  cases formulaCells derive.formula table <;> rfl

theorem IfThenElse.apply_eq_withComputed (choice : IfThenElse) (table : Table) :
    choice.apply table = table.withComputed choice.newColumn (choice.branch.resolve table) := by
  rw [apply, withComputed]
  cases choice.branch.resolve table <;> rfl

/-- The instants of a column, cell by cell. -/
theorem Duration.instants_eq (table : Table) (name : String) :
    instants table name =
      ((table.column name).map Column.cells).bind (List.mapM (instantOf name)) := by
  rw [instants]
  cases found : table.column name with
  | error error => rfl
  | ok column =>
      rw [← name_of_column found]
      rfl

def Duration.cells (duration : Duration) (table : Table) : Except StepError (List Cell) :=
  ((instants table duration.start).bind fun starts =>
    (instants table duration.finish).map starts.zip).bind (List.mapM (between duration.unit))

theorem Duration.apply_eq_withComputed (duration : Duration) (table : Table) :
    duration.apply table = table.withComputed duration.newColumn (duration.cells table) := by
  rw [apply, withComputed, cells]
  cases instants table duration.start with
  | error error => rfl
  | ok starts =>
      cases instants table duration.finish with
      | error error => rfl
      | ok finishes =>
          simp only [Except.map, Except.bind]
          cases (starts.zip finishes).mapM (between duration.unit) <;> rfl

/-- The dates as texts. -/
def FormatDate.cells (format : FormatDate) (table : Table) : Except StepError (List Cell) :=
  format.items.bind fun items =>
    (Duration.instants table format.column).bind (List.mapM (write items))

theorem FormatDate.apply_eq_withComputed (format : FormatDate) (table : Table) :
    format.apply table = table.withComputed format.column (format.cells table) := by
  rw [apply, withComputed, cells]
  cases format.items with
  | error error => rfl
  | ok items =>
      simp only [Duration.instants, Except.bind]
      cases table.column format.column with
      | error error => rfl
      | ok column =>
          simp only
          cases instantsOf column with
          | error error => rfl
          | ok instants =>
              simp only
              cases instants.mapM (write items) <;> rfl

namespace Transform

/-- The name of the one column that a transform writes, and the computation of its cells.  The
transforms that go through groups or dates in an order are not among them. -/
def computed? : Transform → Option (String × (Table → Except StepError (List Cell)))
  | .duplicate definition => some (definition.newColumn, definition.cells)
  | .concatenate definition => some (definition.newColumn, definition.cells)
  | .derive definition => some (definition.newColumn, formulaCells definition.formula)
  | .constantText definition =>
      some (definition.newColumn, fun table =>
        .ok (List.replicate table.rowCount (.text definition.text)))
  | .changeCase letterCase definition => some (definition.column, definition.cells letterCase)
  | .replace definition => some (definition.column, definition.cells)
  | .duration definition => some (definition.newColumn, definition.cells)
  | .ifThenElse definition =>
      some (definition.newColumn, fun table => definition.branch.resolve table)
  | .formatDate definition => some (definition.column, definition.cells)
  | _ => none

theorem apply_eq_withComputed {transform : Transform} {name : String}
    {compute : Table → Except StepError (List Cell)}
    (computes : transform.computed? = some (name, compute))
    (table : Table) : transform.apply table = table.withComputed name (compute table) := by
  cases transform <;> cases computes
  case duplicate definition => exact definition.apply_eq_withComputed table
  case concatenate definition => exact definition.apply_eq_withComputed table
  case derive definition => exact definition.apply_eq_withComputed table
  case constantText definition => rfl
  case changeCase letterCase definition => exact definition.apply_eq_withComputed letterCase table
  case replace definition => exact definition.apply_eq_withComputed table
  case duration definition => exact definition.apply_eq_withComputed table
  case ifThenElse definition => exact definition.apply_eq_withComputed table
  case formatDate definition => exact definition.apply_eq_withComputed table

end Transform

namespace ExtractDate

/-- The moments from which the parts are taken. -/
def moments (extract : ExtractDate) (table : Table) :
    Except StepError (List (Option Calendar.Moment)) :=
  (Duration.instants table extract.column).bind (List.mapM momentOf?)

/-- The columns of the parts; a part without a name has none. -/
def written (extract : ExtractDate) (moments : List (Option Calendar.Moment)) : List Column :=
  (extract.parts.zip extract.newColumns).map fun pair => partColumn moments pair.1 pair.2

theorem apply_eq_bind (extract : ExtractDate) (table : Table) :
    extract.apply table =
      (extract.moments table).bind fun moments => table.withColumns (extract.written moments) := by
  rw [apply, moments, Duration.instants]
  cases table.column extract.column with
  | error error => rfl
  | ok column =>
      simp only
      cases instantsOf column with
      | error error => rfl
      | ok instants =>
          simp only [Except.bind]
          cases instants.mapM momentOf? <;> rfl

end ExtractDate

/-- A column with its cells changed one by one. -/
def Column.mapCells (change : Cell → Cell) (column : Column) : Column :=
  { column with cells := column.cells.map change }

/-- A table with the cells of some of its columns changed one by one. -/
def Table.withChanged (table : Table) (names : List String) (change : Cell → Cell) :
    Except StepError Table :=
  (table.columnsOf names).bind fun columns =>
    table.withColumns (columns.map (Column.mapCells change))

/-- An update changes cells one by one.  It leaves a column alone only if no cell would change. -/
def ChangesCells (update : Column → Option Column) (change : Cell → Cell) : Prop :=
  ∀ column, (update column).getD column = column.mapCells change

/-- Filling cell by cell. -/
theorem FillNull.changesCells_fillColumn (value : Cell) :
    ChangesCells (fillColumn value) fun cell => if cell.isNull then value else cell := by
  intro column
  rw [fillColumn]
  split
  · rfl
  · rename_i full
    have unchanged : ∀ cell ∈ column.cells, (if cell.isNull then value else cell) = id cell := by
      intro cell member
      rw [if_neg]
      · rfl
      · intro null
        exact full (List.any_eq_true.2 ⟨cell, member, null⟩)
    rw [Option.getD_none, Column.mapCells, List.map_congr_left unchanged, List.map_id]

/-- Putting a column where it is already changes nothing. -/
theorem putColumn_of_find? {columns : List Column} {column : Column}
    (found : columns.find? (fun other => other.name == column.name) = some column) :
    putColumn columns column = columns := by
  induction columns with
  | nil => cases found
  | cons first rest ih =>
      rw [putColumn]
      split
      · rename_i same
        rw [List.find?_cons_of_pos (by simpa using same), Option.some.injEq] at found
        rw [found]
      · rename_i different
        rw [List.find?_cons_of_neg (by simpa using different)] at found
        rw [ih found]

theorem Table.WellFormed.withColumn_self (wellFormed : table.WellFormed) {column : Column}
    (found : table.column column.name = .ok column) : table.withColumn column = .ok table := by
  have fits := wellFormed.length_column found
  have foundColumn := column_eq_ok_iff.1 found
  rw [withColumn, if_neg (fun misfit => misfit.2 fits), putColumn_of_find? foundColumn,
    ofColumns_eq_ok_iff]
  refine ⟨rfl, ?_, wellFormed⟩
  cases columns : table.columns with
  | nil =>
      rw [column?, columns] at foundColumn
      cases foundColumn
  | cons first rest =>
      have firstLength := wellFormed.length_cells first (columns ▸ List.mem_cons_self)
      simp [firstLength]

theorem columnsOf_cons (name : String) (rest : List String) :
    table.columnsOf (name :: rest) =
      (table.column name).bind fun column => (table.columnsOf rest).map (column :: ·) := by
  rw [columnsOf, List.mapM_cons]
  cases table.column name with
  | error error => rfl
  | ok column =>
      simp only [Except.bind, columnsOf]
      cases rest.mapM table.column <;> rfl

section Chosen

variable {names : List String} {columns : List Column}

theorem Table.WellFormed.length_of_mem_columnsOf (wellFormed : table.WellFormed)
    (found : table.columnsOf names = .ok columns) :
    ∀ column ∈ columns, column.cells.length = table.rowCount := by
  obtain ⟨column, each, rfl⟩ := exists_of_mapM_eq_ok (Column.mk "" []) found
  rw [List.forall_mem_map]
  intro name member
  exact wellFormed.length_column (each name member)

end Chosen

section Updates

variable {source : Table} {update : Column → Option Column} {change : Cell → Cell}

/-- The columns of a table are columns of the source, as they are there or with their cells
changed. -/
def Mixes (source table : Table) (change : Cell → Cell) : Prop :=
  ∀ name column, source.column name = .ok column →
    table.column name = .ok column ∨ table.column name = .ok (column.mapCells change)

theorem Mixes.withColumn {next : Table} (mixes : Mixes source table change) {name : String}
    {column : Column} (found : source.column name = .ok column)
    (added : table.withColumn (column.mapCells change) = .ok next) : Mixes source next change := by
  intro other held foundOther
  by_cases same : (column.mapCells change).name = other
  · have nameEq : name = other := (name_of_column found).symm.trans same
    rw [nameEq, foundOther, Except.ok.injEq] at found
    cases found
    exact .inr (same ▸ column_of_withColumn added)
  · have lookup := column?_of_withColumn added other
    rw [if_neg same] at lookup
    simp only [column_eq_ok_iff, lookup]
    simpa only [column_eq_ok_iff] using mixes other held foundOther

/-- A step of the update comes to writing the changed column.  A column that is passed over is in
the table already, as it was or changed, which is the same. -/
theorem updateColumns_cons {next : Table} (changes : ChangesCells update change)
    (wellFormed : table.WellFormed) (mixes : Mixes source table change) {name : String}
    {column : Column} (found : source.column name = .ok column)
    (added : table.withColumn (column.mapCells change) = .ok next) (rest : List String) :
    updateColumns source update table (name :: rest) = updateColumns source update next rest := by
  have changed := changes column
  simp only [updateColumns, found]
  cases updated : update column with
  | none =>
      rw [updated, Option.getD_none] at changed
      have held : table.column column.name = .ok column := by
        rw [name_of_column found]
        rcases mixes name column found with old | new
        · exact old
        · rwa [← changed] at new
      rw [← changed, wellFormed.withColumn_self held, Except.ok.injEq] at added
      rw [added]
  | some replaced =>
      rw [updated, Option.getD_some] at changed
      simp only [changed, added]

/-- Updating some columns writes all of them, each as it was at the start with its cells changed. -/
theorem updateColumns_eq_of_mixes (sourceWellFormed : source.WellFormed)
    (changes : ChangesCells update change) (wellFormed : table.WellFormed)
    (rowCount : table.rowCount = source.rowCount) (mixes : Mixes source table change)
    (names : List String) :
    updateColumns source update table names =
      (source.columnsOf names).bind fun columns =>
        table.withColumns (columns.map (Column.mapCells change)) := by
  induction names generalizing table with
  | nil => rfl
  | cons name rest ih =>
      rw [columnsOf_cons]
      cases found : source.column name with
      | error error =>
          rw [updateColumns, found]
          rfl
      | ok column =>
          have fits : (column.mapCells change).cells.length = table.rowCount := by
            rw [rowCount, ← sourceWellFormed.length_column found]
            exact List.length_map ..
          obtain ⟨next, added, nextRowCount⟩ := wellFormed.exists_withColumn _ fits
          rw [updateColumns_cons changes wellFormed mixes found added rest,
            ih (givesWellFormed_withColumn table _ next added) (nextRowCount.trans rowCount)
              (mixes.withColumn found added)]
          cases source.columnsOf rest with
          | error error => rfl
          | ok columns => simp only [Except.bind, Except.map, List.map_cons, withColumns, added]

end Updates

theorem Convert.apply_eq_withChanged (wellFormed : table.WellFormed) (convert : Convert) :
    convert.apply table =
      table.withChanged convert.columns (Cell.convert convert.conversion) :=
  updateColumns_eq_of_mixes wellFormed (fun _ => rfl) wellFormed rfl (fun _ _ found => .inl found) _

theorem FillNull.apply_eq_withChanged (wellFormed : table.WellFormed) (fill : FillNull) :
    fill.apply table =
      table.withChanged fill.columns fun cell => if cell.isNull then fill.value else cell :=
  updateColumns_eq_of_mixes wellFormed (changesCells_fillColumn fill.value) wellFormed rfl
    (fun _ _ found => .inl found) _

end TableFlow
