import TableFlow.Pipeline.Combine
import TableFlow.Transform.Basic

/-!
# Errors of transforms

A failure of a nested run comes from a nested run only.  Operations on tables, transforms, stacking
and joining fail for reasons of their own: each stage either reports such a reason itself or hands
on the error of an earlier stage.

Main statements: `Transform.failsPlainly_apply`, `Table.failsPlainly_appendTables` and
`Table.failsPlainly_joinTables`.
-/

namespace TableFlow

/-- Whether an error is the failure of a nested run. -/
def StepError.isNested : StepError → Bool
  | .nested _ _ _ => true
  | _ => false

/-- A computation fails, if at all, for a reason of its own and not because a nested run failed.  It
is reducible, so that what is known of a stage can be used where the error of that stage turns
up. -/
abbrev FailsPlainly {α : Type} (result : Except StepError α) : Prop :=
  ∀ error, result = .error error → error.isNested = false

section Stages

variable {α β : Type}

theorem failsPlainly_ok (value : α) : FailsPlainly (.ok value) := by
  intro error equal
  cases equal

theorem failsPlainly_error {error : StepError} (plain : error.isNested = false) :
    FailsPlainly (.error error : Except StepError α) := by
  intro other equal
  cases equal
  exact plain

/-- A traversal hands on the error of one of its items. -/
theorem failsPlainly_mapM {check : α → Except StepError β}
    (plain : ∀ item, FailsPlainly (check item))
    (items : List α) : FailsPlainly (items.mapM check) := by
  induction items with
  | nil => exact failsPlainly_ok _
  | cons item rest ih =>
      rw [List.mapM_cons]
      cases first : check item with
      | error error => exact failsPlainly_error (plain item error first)
      | ok value =>
          cases others : rest.mapM check with
          | error error => exact failsPlainly_error (ih error others)
          | ok values => exact failsPlainly_ok (value :: values)

theorem failsPlainly_checkAll {check : α → Except StepError Unit}
    (plain : ∀ item, FailsPlainly (check item)) (items : List α) :
    FailsPlainly (checkAll check items) := by
  induction items with
  | nil => exact failsPlainly_ok _
  | cons item rest ih =>
      rw [checkAll]
      split
      · rename_i error failed
        exact failsPlainly_error (plain item error failed)
      · exact ih

/-- A walk hands on the error of one of its steps. -/
theorem failsPlainly_foldlM {step : β → α → Except StepError β}
    (plain : ∀ state item, FailsPlainly (step state item)) (state : β) (items : List α) :
    FailsPlainly (items.foldlM step state) := by
  induction items generalizing state with
  | nil => exact failsPlainly_ok _
  | cons item rest ih =>
      rw [List.foldlM_cons]
      cases first : step state item with
      | error error => exact failsPlainly_error (plain state item error first)
      | ok next => exact ih next

theorem failsPlainly_map {result : Except StepError α} (plain : FailsPlainly result)
    (image : α → β) : FailsPlainly (result.map image) := by
  cases result with
  | error error => exact failsPlainly_error (plain error rfl)
  | ok value => exact failsPlainly_ok _

end Stages

namespace Table

variable (table : Table)

@[grind →] theorem failsPlainly_checkColumns (rows : Nat) (seen : List String)
    (columns : List Column) : FailsPlainly (checkColumns rows seen columns) := by
  induction columns generalizing seen with
  | nil => exact failsPlainly_ok _
  | cons column rest ih =>
      rw [checkColumns]
      split
      · exact failsPlainly_error rfl
      · split
        · exact failsPlainly_error rfl
        · exact ih _

@[grind →] theorem failsPlainly_ofColumns (columns : List Column) :
    FailsPlainly (ofColumns columns) := by
  simp only [ofColumns]
  grind

@[grind →] theorem failsPlainly_column (name : String) : FailsPlainly (table.column name) := by
  rw [column]
  split
  · exact failsPlainly_ok _
  · exact failsPlainly_error rfl

@[grind →] theorem failsPlainly_columnsOf (names : List String) :
    FailsPlainly (table.columnsOf names) :=
  failsPlainly_mapM table.failsPlainly_column names

@[grind →] theorem failsPlainly_withColumn (column : Column) :
    FailsPlainly (table.withColumn column) := by
  rw [withColumn]
  split
  · exact failsPlainly_error rfl
  · exact failsPlainly_ofColumns _

@[grind →] theorem failsPlainly_withColumns (columns : List Column) :
    FailsPlainly (table.withColumns columns) := by
  induction columns generalizing table with
  | nil => exact failsPlainly_ok _
  | cons column rest ih =>
      rw [withColumns]
      grind

theorem failsPlainly_withoutColumn (name : String) : FailsPlainly (table.withoutColumn name) := by
  rw [withoutColumn]
  split
  · exact failsPlainly_ok _
  · exact failsPlainly_error rfl

theorem failsPlainly_renameColumn (old new : String) :
    FailsPlainly (table.renameColumn old new) := by
  rw [renameColumn]
  split
  · exact failsPlainly_ofColumns _
  · exact failsPlainly_error rfl

theorem failsPlainly_select (names : List String) : FailsPlainly (table.select names) := by
  rw [select]
  grind

@[grind →] theorem failsPlainly_groupRows (keys : List String) :
    FailsPlainly (table.groupRows keys) := by
  rw [groupRows]
  grind

theorem failsPlainly_appendTables (tables : List Table) : FailsPlainly (appendTables tables) :=
  failsPlainly_ofColumns _

theorem failsPlainly_addRightColumns (pairs : List (Nat × Option Nat)) (columns : List Column) :
    FailsPlainly (addRightColumns pairs table columns) := by
  induction columns generalizing table with
  | nil => exact failsPlainly_ok _
  | cons column rest ih =>
      rw [addRightColumns]
      grind

theorem failsPlainly_joinTables (kind : JoinKind) (keys : List (String × String))
    (right : Table) : FailsPlainly (joinTables kind keys table right) := by
  rw [joinTables]
  split
  · grind
  · split
    · grind
    · simp only
      split
      · exact failsPlainly_ok _
      · exact failsPlainly_addRightColumns _ _ _

end Table

@[grind →] theorem failsPlainly_requireNumeric (column : Column) (expected : Expectation) :
    FailsPlainly (requireNumeric column expected) := by
  rw [requireNumeric]
  split
  · exact failsPlainly_error rfl
  · exact failsPlainly_ok _

@[grind →] theorem failsPlainly_instantsOf (column : Column) :
    FailsPlainly (instantsOf column) := by
  apply failsPlainly_mapM
  intro cell
  cases cell with
  | timestamp millis => exact failsPlainly_ok _
  | null => exact failsPlainly_ok _
  | boolean value => exact failsPlainly_error rfl
  | integer value => exact failsPlainly_error rfl
  | float value => exact failsPlainly_error rfl
  | text value => exact failsPlainly_error rfl

@[grind →] theorem failsPlainly_momentOf (millis : Int) : FailsPlainly (momentOf millis) := by
  rw [momentOf]
  split
  · exact failsPlainly_ok _
  · exact failsPlainly_error rfl

theorem failsPlainly_updateColumns (source : Table) (update : Column → Option Column)
    (table : Table)
    (names : List String) : FailsPlainly (updateColumns source update table names) := by
  induction names generalizing table with
  | nil => exact failsPlainly_ok _
  | cons name rest ih =>
      rw [updateColumns]
      grind

theorem ChangeCase.failsPlainly_changeCell (column : String) (letterCase : LetterCase)
    (cell : Cell) :
    FailsPlainly (changeCell column letterCase cell) := by
  cases cell with
  | text value => exact failsPlainly_ok _
  | null => exact failsPlainly_ok _
  | boolean value => exact failsPlainly_error rfl
  | integer value => exact failsPlainly_error rfl
  | float value => exact failsPlainly_error rfl
  | timestamp millis => exact failsPlainly_error rfl

namespace Condition

theorem failsPlainly_compareCell (column : String) (operator : Comparison) (value cell : Cell) :
    FailsPlainly (compareCell column operator value cell) := by
  rw [compareCell]
  split
  · exact failsPlainly_ok _
  · split
    · exact failsPlainly_ok _
    · exact failsPlainly_error rfl

theorem failsPlainly_memberCell (column : String) (operator : Membership) (values : List Cell)
    (cell : Cell) : FailsPlainly (memberCell column operator values cell) := by
  have plainFind (literals : List Cell) : FailsPlainly (findCell column literals cell) := by
    rw [findCell.eq_def]
    split
    · exact failsPlainly_ok _
    · split
      · exact failsPlainly_ok _
      · split
        · exact failsPlainly_ok _
        · exact failsPlainly_error rfl
  rw [memberCell]
  grind

mutual

@[grind →] theorem failsPlainly_evaluate (table : Table) :
    (condition : Condition) → FailsPlainly (condition.evaluate table)
  | .all children => by
      rw [evaluate]
      exact failsPlainly_evaluateAll table _ _ children
  | .any children => by
      rw [evaluate]
      exact failsPlainly_evaluateAll table _ _ children
  | .compare name operator value => by
      have plain := failsPlainly_mapM (failsPlainly_compareCell name operator value)
      rw [evaluate]
      grind
  | .member name operator values => by
      have plain := failsPlainly_mapM (failsPlainly_memberCell name operator values)
      rw [evaluate]
      grind
  | .null name test => by
      rw [evaluate]
      grind

theorem failsPlainly_evaluateAll (table : Table) (op : Bool → Bool → Bool) (mask : List Bool) :
    (children : List Condition) → FailsPlainly (evaluateAll table op mask children)
  | [] => failsPlainly_ok _
  | child :: rest => by
      have plain := failsPlainly_evaluate table child
      rw [evaluateAll]
      split
      · rename_i error failed
        exact failsPlainly_error (plain error failed)
      · exact failsPlainly_evaluateAll table op _ rest

end

end Condition

theorem StepError.isNested_ofFormula (error : Formula.FormulaError) :
    (StepError.ofFormula error).isNested = false := by
  cases error <;> rfl

@[grind →] theorem failsPlainly_formulaCells (source : String) (table : Table) :
    FailsPlainly (formulaCells source table) := by
  rw [formulaCells]
  split
  · exact failsPlainly_ok _
  · exact failsPlainly_error (StepError.isNested_ofFormula _)

theorem Filter.failsPlainly_mask (table : Table) (filter : Filter) :
    FailsPlainly (filter.mask table) := by
  cases filter with
  | condition test => exact test.failsPlainly_evaluate table
  | formula source =>
      simp only [mask]
      split
      · exact failsPlainly_ok _
      · exact failsPlainly_error (StepError.isNested_ofFormula _)

@[grind →] theorem Operand.failsPlainly_resolve (table : Table) (operand : Operand) :
    FailsPlainly (operand.resolve table) := by
  cases operand with
  | text source =>
      rw [resolve]
      grind
  | constant cell => exact failsPlainly_ok _

theorem Branch.failsPlainly_resolve (table : Table) (branch : Branch) :
    FailsPlainly (branch.resolve table) := by
  induction branch with
  | value operand => exact operand.failsPlainly_resolve table
  | choose condition accepted otherwise ih =>
      rw [resolve]
      grind

theorem AggregateState.failsPlainly_addNumber (function : AggregateFunction)
    (state : AggregateState) (cell : Cell) : FailsPlainly (state.addNumber function cell) := by
  rw [addNumber.eq_def]
  split
  · split
    · exact failsPlainly_ok _
    · exact failsPlainly_error rfl
  · exact failsPlainly_ok _

theorem AggregateState.failsPlainly_update (function : AggregateFunction) (state : AggregateState)
    (cell : Cell) : FailsPlainly (state.update function cell) := by
  rw [update]
  split
  · exact failsPlainly_ok _
  · cases function with
    | sum | avg => exact failsPlainly_addNumber _ _ cell
    | _ => exact failsPlainly_ok _

namespace AggregateFunction

@[grind →] theorem failsPlainly_checkInput (function : AggregateFunction) (column : Column) :
    FailsPlainly (function.checkInput column) := by
  rw [checkInput.eq_def]
  grind

theorem failsPlainly_apply (function : AggregateFunction) (column : Column) (rows : List Nat) :
    FailsPlainly (function.apply column rows) :=
  failsPlainly_map (failsPlainly_foldlM (AggregateState.failsPlainly_update function) _ _) _

end AggregateFunction

namespace Aggregate

@[grind →] theorem failsPlainly_reduceGroups (table : Table) (groups : List (List Nat))
    (function : AggregateFunction) (source : String) :
    FailsPlainly (reduceGroups table groups function source) := by
  have plain (column : Column) := failsPlainly_mapM (function.failsPlainly_apply column) groups
  rw [reduceGroups]
  grind

theorem failsPlainly_resultColumns (table : Table) (groups : List (List Nat))
    (aggregation : Aggregation) : FailsPlainly (resultColumns table groups aggregation) := by
  apply failsPlainly_mapM
  rintro ⟨source, target⟩
  simp only
  grind

@[grind →] theorem failsPlainly_groups (aggregate : Aggregate) (table : Table) :
    FailsPlainly (aggregate.groups table) := by
  rw [groups]
  grind

@[grind →] theorem failsPlainly_apply (aggregate : Aggregate) (table : Table) :
    FailsPlainly (aggregate.apply table) := by
  have plain (groups : List (List Nat)) :=
    failsPlainly_mapM (failsPlainly_resultColumns table groups) aggregate.aggregations
  rw [apply]
  grind

end Aggregate

theorem Pivot.failsPlainly_apply (pivot : Pivot) (table : Table) :
    FailsPlainly (pivot.apply table) := by
  have plainCell (column values : Column) (rows : List Nat) (category : Cell) :
      FailsPlainly (pivot.cellFor column values rows category) := by
    rw [cellFor]
    split
    · exact failsPlainly_ok _
    · exact pivot.function.failsPlainly_apply values _
  have plainCells (column values : Column) (categories : List Cell) (groups : List (List Nat)) :
      FailsPlainly (groups.mapM fun rows =>
        categories.mapM (pivot.cellFor column values rows)) := by
    apply failsPlainly_mapM
    intro rows
    exact failsPlainly_mapM (plainCell column values rows) categories
  simp only [apply]
  split
  · grind
  · split
    · grind
    · split
      · grind
      · split
        · grind
        · split
          · rename_i error failed
            exact failsPlainly_error (plainCells _ _ _ _ error failed)
          · grind

namespace Rollup

@[grind →] theorem failsPlainly_annotate (rollup : Rollup) (level : Table) (own : String)
    (parent : Option String) : FailsPlainly (rollup.annotate level own parent) := by
  simp only [annotate]
  cases parent with
  | none => grind
  | some parent => grind

theorem failsPlainly_levels (rollup : Rollup) (table : Table) (passed : List String)
    (parent : Option String) (hierarchy : List String) :
    FailsPlainly (rollup.levels table passed parent hierarchy) := by
  induction hierarchy generalizing passed parent with
  | nil => exact failsPlainly_ok _
  | cons own finer ih =>
      simp only [levels]
      grind

end Rollup

theorem Rank.failsPlainly_rankGroup (rank : Rank) (column : Column) (rows : List Nat) :
    FailsPlainly (rank.rankGroup column rows) := by
  rw [rankGroup]
  split
  · exact failsPlainly_error rfl
  · exact failsPlainly_error rfl
  · exact failsPlainly_ok _

@[grind →] theorem Extreme.failsPlainly_checkComparable (column : Column) :
    FailsPlainly (checkComparable column) := by
  rw [checkComparable]
  split
  · exact failsPlainly_ok _
  · apply failsPlainly_checkAll
    intro cell
    split
    · exact failsPlainly_ok _
    · exact failsPlainly_error rfl

theorem Quantile.failsPlainly_valueAt (values : List Float) (index : Nat) :
    FailsPlainly (valueAt values index) := by
  rw [valueAt]
  split
  · exact failsPlainly_ok _
  · exact failsPlainly_error rfl

theorem Quantile.failsPlainly_interpolate (values : List Float) (position : Float) :
    FailsPlainly (interpolate values position) := by
  have plain := failsPlainly_valueAt values
  rw [interpolate]
  cases low : valueAt values (index position (Number.floor? position)) with
  | error error => exact failsPlainly_error (plain _ error low)
  | ok low =>
      cases high : valueAt values
          (index position ((Number.floor? (-position)).map fun whole => -whole)) with
      | error error => exact failsPlainly_error (plain _ error high)
      | ok high => exact failsPlainly_ok _

theorem Quantile.failsPlainly_column (samples : List (List Cell)) (quantile : Quantile) :
    FailsPlainly (quantile.column samples) := by
  refine failsPlainly_map (failsPlainly_mapM (fun cells => ?_) samples) _
  rw [compute]
  split
  · exact failsPlainly_ok _
  · split
    · exact failsPlainly_error rfl
    · exact failsPlainly_map (failsPlainly_interpolate _ _) _

@[grind →] theorem Statistics.failsPlainly_resultColumns (statistics : Statistics)
    (samples : List (List Cell)) : FailsPlainly (statistics.resultColumns samples) :=
  failsPlainly_map (failsPlainly_mapM (Quantile.failsPlainly_column samples) _) _

theorem RunningSum.failsPlainly_sumGroup (asFloat : Bool) (column : Column) (rows : List Nat) :
    FailsPlainly (sumGroup asFloat column rows) := by
  have plainSums (total : Int) (cells : List Cell) :
      FailsPlainly (sumInts column.name total cells) := by
    induction cells generalizing total with
    | nil => exact failsPlainly_ok _
    | cons cell rest ih =>
        cases cell with
        | integer value =>
            rw [sumInts]
            split
            · exact failsPlainly_error rfl
            · grind
        | _ =>
            rw [sumInts]
            · grind
            · simp
  simp only [sumGroup]
  grind

theorem FormatDate.failsPlainly_items (format : FormatDate) : FailsPlainly format.items := by
  rw [items]
  split
  · exact failsPlainly_ok _
  · exact failsPlainly_error rfl

theorem FormatDate.failsPlainly_write (items : List Calendar.PatternItem) (instant : Option Int) :
    FailsPlainly (write items instant) := by
  cases instant with
  | none => exact failsPlainly_ok _
  | some millis =>
      rw [write]
      split
      · grind
      · split
        · exact failsPlainly_ok _
        · exact failsPlainly_error rfl

theorem ExtractDate.failsPlainly_momentOf? (instant : Option Int) :
    FailsPlainly (momentOf? instant) := by
  cases instant with
  | none => exact failsPlainly_ok _
  | some millis =>
      rw [momentOf?]
      grind

namespace Duration

theorem failsPlainly_between (unit : TimeUnit) (instants : Option Int × Option Int) :
    FailsPlainly (between unit instants) := by
  rw [between.eq_def]
  split
  · split
    · exact failsPlainly_ok _
    · exact failsPlainly_error rfl
  · exact failsPlainly_ok _

@[grind →] theorem failsPlainly_instants (table : Table) (name : String) :
    FailsPlainly (instants table name) := by
  rw [instants]
  grind

end Duration

namespace Evolution

theorem failsPlainly_collect (column : String) (index : List Column) (found : List Dated)
    (dates : List (Option Int × Nat)) : FailsPlainly (collect column index found dates) := by
  induction dates generalizing found with
  | nil => exact failsPlainly_ok _
  | cons entry rest ih =>
      obtain ⟨_ | date, row⟩ := entry
      · exact ih found
      · simp only [collect]
        split
        · exact failsPlainly_error rfl
        · exact ih _

theorem failsPlainly_compareRow (evolution : Evolution) (values : Column) (index : List Column)
    (dated : List Dated) (entry : Option Int × Nat) :
    FailsPlainly (evolution.compareRow values index dated entry) := by
  obtain ⟨_ | date, row⟩ := entry
  · exact failsPlainly_ok _
  · simp only [compareRow, Period.previous]
    grind

end Evolution

@[grind →] theorem Statistics.failsPlainly_groups (statistics : Statistics) (table : Table) :
    FailsPlainly (statistics.groups table) := by
  rw [groups]
  grind

/-! ## Transforms -/

theorem Rename.failsPlainly_applyPairs (table : Table) (pairs : List (String × String)) :
    FailsPlainly (applyPairs table pairs) := by
  induction pairs generalizing table with
  | nil => exact failsPlainly_ok _
  | cons pair rest ih =>
      obtain ⟨old, new⟩ := pair
      have plain := table.failsPlainly_renameColumn old new
      rw [applyPairs, applyPair]
      grind

theorem Delete.failsPlainly_dropAll (table : Table) (names : List String) :
    FailsPlainly (dropAll table names) := by
  induction names generalizing table with
  | nil => exact failsPlainly_ok _
  | cons name rest ih =>
      have plain := table.failsPlainly_withoutColumn name
      rw [dropAll]
      grind

/-- No transform fails as a nested run does. -/
theorem Transform.failsPlainly_apply (transform : Transform) (table : Table) :
    FailsPlainly (transform.apply table) := by
  cases transform with
  | rename definition => exact Rename.failsPlainly_applyPairs table _
  | delete definition => exact Delete.failsPlainly_dropAll table _
  | select definition => exact table.failsPlainly_select _
  | convert definition => exact failsPlainly_updateColumns table _ table _
  | fillNull definition => exact failsPlainly_updateColumns table _ table _
  | constantText definition => exact table.failsPlainly_withColumn _
  | aggregate definition => exact definition.failsPlainly_apply table
  | pivot definition => exact definition.failsPlainly_apply table
  -- The others hand on the error of a stage or end in `Table.withColumn` or `Table.ofColumns`.
  | duplicate definition =>
      rw [apply, Duplicate.apply]
      grind
  | concatenate definition =>
      rw [apply, Concatenate.apply]
      grind
  | replace definition =>
      rw [apply, Replace.apply]
      grind
  | derive definition =>
      rw [apply, Derive.apply]
      grind
  | share definition =>
      rw [apply, Share.apply]
      repeat' split
      all_goals grind
  | extreme side definition =>
      rw [apply, Extreme.apply]
      repeat' split
      all_goals grind
  | statistics definition =>
      rw [apply, Statistics.apply]
      repeat' split
      all_goals grind
  | filter definition =>
      have plain := definition.failsPlainly_mask table
      rw [apply, Filter.apply]
      grind
  | ifThenElse definition =>
      have plain := definition.branch.failsPlainly_resolve table
      rw [apply, IfThenElse.apply]
      grind
  | rollup definition =>
      have plain := definition.failsPlainly_levels table [] none definition.hierarchy
      rw [apply, Rollup.apply]
      grind
  | changeCase letterCase definition =>
      have plain :=
        failsPlainly_mapM (ChangeCase.failsPlainly_changeCell definition.column letterCase)
      rw [apply, ChangeCase.apply]
      repeat' split
      all_goals grind
  | rank definition =>
      have plain (column : Column) := failsPlainly_mapM (definition.failsPlainly_rankGroup column)
      rw [apply, Rank.apply]
      repeat' split
      all_goals grind
  | runningSum definition =>
      have plain (asFloat : Bool) (column : Column) :=
        failsPlainly_mapM (RunningSum.failsPlainly_sumGroup asFloat column)
      rw [apply, RunningSum.apply]
      repeat' split
      all_goals grind
  | duration definition =>
      have plain := failsPlainly_mapM (Duration.failsPlainly_between definition.unit)
      rw [apply, Duration.apply]
      repeat' split
      all_goals grind
  | formatDate definition =>
      have plainItems := definition.failsPlainly_items
      have plain (items : List Calendar.PatternItem) :=
        failsPlainly_mapM (FormatDate.failsPlainly_write items)
      rw [apply, FormatDate.apply]
      repeat' split
      all_goals grind
  | extractDate definition =>
      have plain := failsPlainly_mapM ExtractDate.failsPlainly_momentOf?
      rw [apply, ExtractDate.apply]
      repeat' split
      all_goals grind
  | evolution definition =>
      have plainCollect := Evolution.failsPlainly_collect definition.date
      have plain (values : Column) (index : List Column) (dated : List Dated) :=
        failsPlainly_mapM (definition.failsPlainly_compareRow values index dated)
      rw [apply, Evolution.apply]
      repeat' split
      all_goals grind

end TableFlow
