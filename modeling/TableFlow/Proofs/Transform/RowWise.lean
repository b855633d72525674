import TableFlow.Proofs.Condition.Rows
import TableFlow.Proofs.Formula.Rows
import TableFlow.Proofs.Transform.Extreme
import TableFlow.Proofs.Transform.Written
import TableFlow.Transform.Basic

/-!
# Transforms that commute with taking rows

A transform that computes each row from itself can be applied before or after rows are taken, in any
order and with repetitions.  It looks at whole columns on the way: conditions are evaluated leaf by
leaf, a wrong cell in any row makes the transform fail, and filling passes over full columns.  None
of this carries anything from one row to another once the transform succeeds.

Main statement: `Transform.apply_rowwise`.
-/

namespace TableFlow

open TableFlow.Table

variable {table output : Table} {rows : List Nat}

namespace Formula

theorem bindColumns_takeRows (names : List String) :
    bindColumns (table.takeRows rows) names = bindColumns table names := by
  induction names with
  | nil => rfl
  | cons name rest ih => rw [bindColumns, bindColumns, hasColumn_takeRows, ih]

theorem Expr.goesByRows_evalTable (expr : Expr) : table.GoesByRows expr.evalTable := by
  intro cells evaluated
  rw [evalTable] at evaluated
  split at evaluated
  · cases evaluated
  · rename_i bound
    obtain ⟨value, each, rfl⟩ := exists_of_mapM_eq_ok .null evaluated
    refine ⟨value, rfl, ?_⟩
    intro rows inside
    have eachPosition : ∀ index ∈ List.range rows.length,
        expr.eval ((table.takeRows rows).cellAt index) = .ok (value (rows.getD index 0)) := by
      intro index member
      have position := List.mem_range.1 member
      rw [cellAt_takeRows position, List.getD_eq_getElem _ _ position]
      exact each _ (List.mem_range.2 (inside _ (List.getElem_mem position)))
    rw [evalTable, bindColumns_takeRows, bound]
    simp only [rowCount_takeRows]
    rw [mapM_eq_ok_map eachPosition, Except.ok.injEq]
    apply map_range_eq_map
    intro index position
    rw [List.getD_eq_getElem _ _ position]

theorem goesByRows_evaluate (source : String) : table.GoesByRows (evaluate source) := by
  have staged : evaluate source =
      fun table => (parse source).bind fun expr => expr.evalTable table := by
    funext table
    rw [evaluate]
    cases parse source <;> rfl
  rw [staged]
  exact goesByRows_bind _ Expr.goesByRows_evalTable

theorem goesByRows_evaluatePredicate (source : String) :
    table.GoesByRows (evaluatePredicate source) := by
  have staged : evaluatePredicate source =
      fun table => (evaluate source table).bind (List.mapM (answer source)) := by
    funext table
    rw [evaluatePredicate]
    cases evaluate source table <;> rfl
  rw [staged]
  exact (goesByRows_evaluate source).mapM _ none

end Formula

theorem goesByRows_formulaCells (source : String) : table.GoesByRows (formulaCells source) := by
  have staged : formulaCells source =
      fun table => (Formula.evaluate (Formula.clean source) table).mapError .ofFormula := by
    funext table
    rw [formulaCells]
    cases Formula.evaluate (Formula.clean source) table <;> rfl
  rw [staged]
  exact (Formula.goesByRows_evaluate _).mapError _

namespace Condition

/-- A leaf that tests the cells of a column. -/
theorem goesByRows_of_leaf (wellFormed : table.WellFormed) {condition : Condition} {name : String}
    {test : Cell → Except StepError Bool}
    (leaf : ∀ table : Table, condition.evaluate table =
      ((table.column name).map Column.cells).bind (List.mapM test)) :
    table.GoesByRows fun table => condition.evaluate table := by
  simp only [leaf]
  exact (wellFormed.goesByRows_column name).mapM test false

mutual

theorem goesByRows_evaluate (wellFormed : table.WellFormed) :
    (condition : Condition) → table.GoesByRows fun table => condition.evaluate table
  | .all children => by
      simp only [evaluate]
      exact goesByRows_evaluateAll wellFormed _ children (goesByRows_replicate true)
  | .any children => by
      simp only [evaluate]
      exact goesByRows_evaluateAll wellFormed _ children (goesByRows_replicate false)
  | .compare name operator value => by
      apply goesByRows_of_leaf wellFormed
      intro table
      rw [evaluate]
      cases table.column name <;> rfl
  | .member name operator values => by
      apply goesByRows_of_leaf wellFormed
      intro table
      rw [evaluate]
      cases table.column name <;> rfl
  | .null name test => by
      have staged : (fun table => (Condition.null name test).evaluate table) =
          fun table => ((table.column name).map Column.cells).map (List.map (nullCell test)) := by
        funext table
        rw [evaluate]
        cases table.column name <;> rfl
      rw [staged]
      exact (wellFormed.goesByRows_column name).map _

/-- The mask that the children are combined onto may be computed from the table itself. -/
theorem goesByRows_evaluateAll (wellFormed : table.WellFormed) (op : Bool → Bool → Bool) :
    (children : List Condition) → {start : Table → Except StepError (List Bool)} →
    table.GoesByRows start →
    table.GoesByRows fun table => (start table).bind fun mask => evaluateAll table op mask children
  | [], start, byRows => by
      have staged : (fun table => (start table).bind fun mask => evaluateAll table op mask []) =
          start := by
        funext table
        simp only [evaluateAll]
        cases start table <;> rfl
      rw [staged]
      exact byRows
  | child :: rest, start, byRows => by
      have combined := byRows.join (goesByRows_evaluate wellFormed child)
        fun rows first second => combineMasks_map op first second rows
      have staged : (fun table => (start table).bind fun mask =>
            evaluateAll table op mask (child :: rest)) =
          fun table => ((start table).bind fun mask =>
            (child.evaluate table).map (combineMasks op mask)).bind fun mask =>
              evaluateAll table op mask rest := by
        funext table
        simp only [evaluateAll]
        cases start table with
        | error error => rfl
        | ok mask =>
            simp only [Except.bind]
            cases child.evaluate table <;> rfl
      rw [staged]
      exact goesByRows_evaluateAll wellFormed op rest combined

end

end Condition

theorem Operand.goesByRows_resolve (operand : Operand) :
    table.GoesByRows fun table => operand.resolve table := by
  cases operand with
  | text source =>
      simp only [resolve]
      split
      · exact goesByRows_replicate _
      · exact goesByRows_formulaCells source
  | constant cell => exact goesByRows_replicate cell

theorem Branch.chooseCells_map (test : Nat → Bool) (accepted rejected : Nat → Cell)
    (rows : List Nat) :
    chooseCells (rows.map test) (rows.map accepted) (rows.map rejected) =
      rows.map fun row => if test row then accepted row else rejected row := by
  induction rows with
  | nil => rfl
  | cons row rest ih => simp only [List.map_cons, chooseCells, ih]

theorem Branch.exists_of_resolve_choose {condition : Condition} {accepted : Operand}
    {otherwise : Branch} {cells : List Cell}
    (resolved : (choose condition accepted otherwise).resolve table = .ok cells) :
    ∃ rejectedCells acceptedCells mask, otherwise.resolve table = .ok rejectedCells ∧
      accepted.resolve table = .ok acceptedCells ∧ condition.evaluate table = .ok mask ∧
        cells = chooseCells mask acceptedCells rejectedCells := by
  rw [resolve] at resolved
  split at resolved
  · cases resolved
  · rename_i rejectedCells otherwiseResolved
    split at resolved
    · cases resolved
    · rename_i acceptedCells acceptedResolved
      split at resolved
      · cases resolved
      · rename_i mask evaluated
        exact ⟨rejectedCells, acceptedCells, mask, otherwiseResolved, acceptedResolved, evaluated,
          (Except.ok.inj resolved).symm⟩

theorem Branch.goesByRows_resolve (wellFormed : table.WellFormed) (branch : Branch) :
    table.GoesByRows fun table => branch.resolve table := by
  induction branch with
  | value operand =>
      simp only [resolve]
      exact operand.goesByRows_resolve
  | choose condition accepted otherwise ih =>
      intro cells resolved
      obtain ⟨rejectedCells, acceptedCells, mask, otherwiseResolved, acceptedResolved, evaluated,
        rfl⟩ :=
        exists_of_resolve_choose resolved
      obtain ⟨rejected, rfl, rejectedRows⟩ := ih _ otherwiseResolved
      obtain ⟨chosen, rfl, chosenRows⟩ := accepted.goesByRows_resolve _ acceptedResolved
      obtain ⟨test, rfl, testRows⟩ := condition.goesByRows_evaluate wellFormed _ evaluated
      refine ⟨_, chooseCells_map test chosen rejected _, ?_⟩
      intro rows inside
      simp only [resolve, rejectedRows rows inside, chosenRows rows inside, testRows rows inside,
        chooseCells_map]

namespace Filter

theorem goesByRows_mask (wellFormed : table.WellFormed) (filter : Filter) :
    table.GoesByRows fun table => filter.mask table := by
  cases filter with
  | condition test =>
      simp only [mask]
      exact test.goesByRows_evaluate wellFormed
  | formula source =>
      have staged : (fun table => (Filter.formula source).mask table) =
          fun table => ((Formula.evaluatePredicate (Formula.clean source) table).map
            (List.map fun answer => answer.getD false)).mapError .ofFormula := by
        funext table
        rw [mask]
        cases Formula.evaluatePredicate (Formula.clean source) table <;> rfl
      rw [staged]
      exact ((Formula.goesByRows_evaluatePredicate _).map _).mapError _

/-- The passing positions of some rows lead to the rows that pass. -/
theorem map_getD_passing (truth : Nat → Bool) (rows : List Nat) (beyond : Nat) :
    (passing (rows.map truth)).map (rows.getD · beyond) = rows.filter truth := by
  have back : ∀ pair ∈ rows.zipIdx.filter fun pair => truth pair.1,
      rows.getD pair.2 beyond = pair.1 := by
    intro pair member
    have found := List.mem_zipIdx_iff_getElem?.1 (List.mem_of_mem_filter member)
    rw [List.getD_eq_getElem?_getD, found, Option.getD_some]
  calc (passing (rows.map truth)).map (rows.getD · beyond)
      = (rows.zipIdx.filter fun pair => truth pair.1).map fun pair => rows.getD pair.2 beyond := by
        simp [passing, List.zipIdx_map, List.filter_map, Function.comp_def]
    _ = (rows.zipIdx.filter fun pair => truth pair.1).map Prod.fst := List.map_congr_left back
    _ = (rows.zipIdx.map Prod.fst).filter truth := List.filter_map.symm
    _ = rows.filter truth := by rw [List.zipIdx_map_fst]

/-- A filter keeps of the rows taken those that it keeps in the whole table. -/
theorem apply_takeRows {filter : Filter} (wellFormed : table.WellFormed) {mask : List Bool}
    (masked : filter.mask table = .ok mask) (inside : table.HasRows rows) :
    filter.apply (table.takeRows rows) =
      .ok (table.takeRows (rows.filter fun row => mask.getD row false)) := by
  obtain ⟨truth, rfl, ofRows⟩ := filter.goesByRows_mask wellFormed mask masked
  have kept : (rows.filter fun row => ((List.range table.rowCount).map truth).getD row false) =
      rows.filter truth := by
    apply List.filter_congr
    intro row member
    simp [inside row member]
  simp only [apply, ofRows rows inside, kept, wellFormed.takeRows_takeRows, map_getD_passing]

end Filter

/-! ## Columns written row by row -/

/-- A column whose cells are computed row by row. -/
theorem Table.withComputed_takeRows {compute : Table → Except StepError (List Cell)}
    (byRows : table.GoesByRows compute) (inside : table.HasRows rows) {name : String}
    (applied : table.withComputed name (compute table) = .ok output) :
    (table.takeRows rows).withComputed name (compute (table.takeRows rows)) =
      .ok (output.takeRows rows) := by
  obtain ⟨cells, computed, added⟩ := bind_eq_ok_iff.1 applied
  obtain ⟨cell, rfl, ofRows⟩ := byRows cells computed
  have taken := withColumn_takeRows rows added
  rw [Column.takeRows_map_range name cell inside] at taken
  exact bind_eq_ok_iff.2 ⟨_, ofRows rows inside, taken⟩

theorem Concatenate.goesByRows_cells (concatenate : Concatenate) :
    table.GoesByRows concatenate.cells := by
  intro cells computed
  obtain ⟨columns, found, rfl⟩ := map_eq_ok_iff.1 computed
  refine ⟨_, rfl, ?_⟩
  intro rows inside
  refine map_eq_ok_iff.2 ⟨_, columnsOf_takeRows rows found, ?_⟩
  apply map_range_eq_map
  intro index position
  simp only [List.map_map, Function.comp_def, Column.cellAt_takeRows_of_lt position]

theorem Table.WellFormed.goesByRows_instants (wellFormed : table.WellFormed) (name : String) :
    table.GoesByRows fun table => Duration.instants table name := by
  simp only [Duration.instants_eq]
  exact (wellFormed.goesByRows_column name).mapM _ none

theorem Duration.goesByRows_cells (wellFormed : table.WellFormed) (duration : Duration) :
    table.GoesByRows duration.cells := by
  have pairs := (wellFormed.goesByRows_instants duration.start).join
    (wellFormed.goesByRows_instants duration.finish)
    fun _ _ _ => List.zip_map'
  exact pairs.mapM _ .null

theorem FormatDate.goesByRows_cells (wellFormed : table.WellFormed) (format : FormatDate) :
    table.GoesByRows format.cells :=
  goesByRows_bind _ fun _ => (wellFormed.goesByRows_instants format.column).mapM _ .null

theorem ExtractDate.goesByRows_moments (wellFormed : table.WellFormed) (extract : ExtractDate) :
    table.GoesByRows extract.moments :=
  (wellFormed.goesByRows_instants extract.column).mapM _ none

theorem ExtractDate.apply_takeRows {extract : ExtractDate} (wellFormed : table.WellFormed)
    (inside : table.HasRows rows) (applied : extract.apply table = .ok output) :
    extract.apply (table.takeRows rows) = .ok (output.takeRows rows) := by
  rw [apply_eq_bind] at applied ⊢
  obtain ⟨moments, computed, added⟩ := bind_eq_ok_iff.1 applied
  obtain ⟨moment, rfl, ofRows⟩ := extract.goesByRows_moments wellFormed _ computed
  have taken := withColumns_takeRows rows added
  have columns : (extract.written ((List.range table.rowCount).map moment)).map
      (fun column => column.takeRows rows) = extract.written (rows.map moment) := by
    simp only [written, List.map_map]
    apply List.map_congr_left
    intro pair member
    simp only [Function.comp_apply, partColumn, List.map_map]
    exact Column.takeRows_map_range pair.2 _ inside
  rw [columns] at taken
  exact bind_eq_ok_iff.2 ⟨_, ofRows rows inside, taken⟩

theorem Column.takeRows_mapCells {column : Column} (change : Cell → Cell)
    (inside : ∀ row ∈ rows, row < column.cells.length) :
    (column.mapCells change).takeRows rows = (column.takeRows rows).mapCells change := by
  simp only [takeRows, mapCells, mk.injEq, List.map_map, true_and]
  apply List.map_congr_left
  intro row member
  simp [cellAt, inside row member]

theorem Table.withChanged_takeRows (wellFormed : table.WellFormed) (inside : table.HasRows rows)
    {names : List String} {change : Cell → Cell}
    (applied : table.withChanged names change = .ok output) :
    (table.takeRows rows).withChanged names change = .ok (output.takeRows rows) := by
  obtain ⟨columns, found, added⟩ := bind_eq_ok_iff.1 applied
  refine bind_eq_ok_iff.2 ⟨_, columnsOf_takeRows rows found, ?_⟩
  have changed : ∀ column ∈ columns, (column.mapCells change).takeRows rows =
      (column.takeRows rows).mapCells change := by
    intro column member
    apply Column.takeRows_mapCells
    rwa [wellFormed.length_of_mem_columnsOf found column member]
  have taken := withColumns_takeRows rows added
  simp only [List.map_map, Function.comp_def] at taken ⊢
  rwa [← List.map_congr_left changed]

namespace Rename

theorem applyPair_takeRows {old new : String} (applied : applyPair table old new = .ok output) :
    applyPair (table.takeRows rows) old new = .ok (output.takeRows rows) := by
  rw [applyPair] at applied ⊢
  simp only [hasColumn_takeRows]
  split at applied
  · rename_i settled
    cases applied
    rw [if_pos settled]
  · rename_i unsettled
    rw [if_neg unsettled]
    exact renameColumn_takeRows rows applied

theorem applyPairs_takeRows {pairs : List (String × String)}
    (applied : applyPairs table pairs = .ok output) :
    applyPairs (table.takeRows rows) pairs = .ok (output.takeRows rows) := by
  induction pairs generalizing table with
  | nil =>
      cases applied
      rfl
  | cons pair rest ih =>
      rw [applyPairs] at applied ⊢
      split at applied
      · cases applied
      · rename_i next appliedFirst
        rw [applyPair_takeRows appliedFirst]
        exact ih applied

end Rename

theorem Delete.dropAll_takeRows {names : List String} (dropped : dropAll table names = .ok output) :
    dropAll (table.takeRows rows) names = .ok (output.takeRows rows) := by
  induction names generalizing table with
  | nil =>
      cases dropped
      rfl
  | cons name rest ih =>
      rw [dropAll] at dropped ⊢
      split at dropped
      · cases dropped
      · rename_i next droppedFirst
        rw [withoutColumn_takeRows rows droppedFirst]
        exact ih dropped

namespace Transform

theorem goesByRows_of_computed? {transform : Transform} {name : String}
    {compute : Table → Except StepError (List Cell)} (wellFormed : table.WellFormed)
    (computes : transform.computed? = some (name, compute)) : table.GoesByRows compute := by
  cases transform <;> cases computes
  case duplicate definition => exact wellFormed.goesByRows_column definition.column
  case concatenate definition => exact definition.goesByRows_cells
  case derive definition => exact goesByRows_formulaCells definition.formula
  case constantText definition => exact goesByRows_replicate _
  case changeCase letterCase definition =>
      exact (wellFormed.goesByRows_column definition.column).mapM _ .null
  case replace definition => exact (wellFormed.goesByRows_column definition.column).map _
  case duration definition => exact definition.goesByRows_cells wellFormed
  case ifThenElse definition => exact definition.branch.goesByRows_resolve wellFormed
  case formatDate definition => exact definition.goesByRows_cells wellFormed

/-- The transforms that keep all rows and compute each of them from itself. -/
def isRowWise : Transform → Bool
  | .rename _ | .delete _ | .select _ | .duplicate _ | .convert _ | .concatenate _ | .fillNull _
  | .derive _ | .constantText _ | .changeCase _ _ | .replace _ | .duration _ | .ifThenElse _
  | .formatDate _ | .extractDate _ => true
  | _ => false

theorem apply_takeRows_of_isRowWise {transform : Transform} (rowWise : transform.isRowWise)
    (wellFormed : table.WellFormed) (inside : table.HasRows rows)
    (applied : transform.apply table = .ok output) :
    transform.apply (table.takeRows rows) = .ok (output.takeRows rows) := by
  -- The transforms that compute one column are alike; those left do something else to the table.
  cases computes : transform.computed? with
  | some written =>
      rw [apply_eq_withComputed computes] at applied ⊢
      exact withComputed_takeRows (goesByRows_of_computed? wellFormed computes) inside applied
  | none =>
      cases transform with
      | rename definition => exact Rename.applyPairs_takeRows applied
      | delete definition => exact Delete.dropAll_takeRows applied
      | select definition => exact select_takeRows rows applied
      | convert definition =>
          simp only [apply, definition.apply_eq_withChanged wellFormed,
            definition.apply_eq_withChanged (wellFormed.takeRows rows)] at applied ⊢
          exact withChanged_takeRows wellFormed inside applied
      | fillNull definition =>
          simp only [apply, definition.apply_eq_withChanged wellFormed,
            definition.apply_eq_withChanged (wellFormed.takeRows rows)] at applied ⊢
          exact withChanged_takeRows wellFormed inside applied
      | extractDate definition => exact definition.apply_takeRows wellFormed inside applied
      | duplicate _ | concatenate _ | derive _ | constantText _ | changeCase _ _ | replace _
      | duration _ | ifThenElse _ | formatDate _ => cases computes
      | filter _ | aggregate _ | rank _ | extreme _ _ | runningSum _ | share _ | evolution _
      | pivot _ | rollup _ | statistics _ => cases rowWise

/-- A transform that computes each row from itself commutes with taking rows.  A filter keeps of the
rows taken those that its mask for the whole table keeps. -/
theorem apply_rowwise (table : Table) (wellFormed : table.WellFormed) (rows : List Nat)
    (inside : ∀ row ∈ rows, row < table.rowCount) :
    (∀ transform output, isRowWise transform = true → transform.apply table = .ok output →
      transform.apply (table.takeRows rows) = .ok (output.takeRows rows)) ∧
    ∀ (test : Filter) output, (Transform.filter test).apply table = .ok output →
      ∃ mask, test.mask table = .ok mask ∧ mask.length = table.rowCount ∧
        output = table.takeRows (Filter.passing mask) ∧
        (Transform.filter test).apply (table.takeRows rows) =
          .ok (table.takeRows (rows.filter fun row => mask.getD row false)) := by
  constructor
  · intro transform output rowWise applied
    exact apply_takeRows_of_isRowWise rowWise wellFormed inside applied
  · intro test output applied
    simp only [apply, Filter.apply] at applied
    split at applied
    · cases applied
    · rename_i mask masked
      cases applied
      exact ⟨mask, masked, (test.goesByRows_mask wellFormed).length_eq masked, rfl,
        Filter.apply_takeRows wellFormed masked inside⟩

/-- Three orders; the second has no amount and no date of delivery. -/
def openOrders : Table :=
  { columns :=
      [⟨"amount", [.integer 20, .null, .integer 35]⟩,
       ⟨"delivered", [.text "2024-05-02", .null, .null]⟩]
    rowCount := 3 }

/-- Zero for no amount and no date. -/
def fillGaps : Transform :=
  .fillNull ⟨["amount", "delivered"], .integer 0⟩

/-- The orders that have an amount. -/
def hasAmount : Filter :=
  .condition (.null "amount" .notNull)

/-- Of the rows that are taken none lacks an amount, so filling passes over the amounts there, while
it fills them in the whole table. -/
theorem apply_rowwise_openOrders :
    openOrders.WellFormed ∧ (∀ row ∈ [2, 0, 2], row < openOrders.rowCount) ∧
      fillGaps.apply openOrders =
        .ok ⟨[⟨"amount", [.integer 20, .integer 0, .integer 35]⟩,
          ⟨"delivered", [.text "2024-05-02", .integer 0, .integer 0]⟩], 3⟩ ∧
      fillGaps.apply (openOrders.takeRows [2, 0, 2]) =
        .ok ⟨[⟨"amount", [.integer 35, .integer 20, .integer 35]⟩,
          ⟨"delivered", [.integer 0, .text "2024-05-02", .integer 0]⟩], 3⟩ ∧
      ∃ mask, hasAmount.mask openOrders = .ok mask ∧
        (Transform.filter hasAmount).apply (openOrders.takeRows [2, 1, 2]) =
          .ok (openOrders.takeRows ([2, 1, 2].filter fun row => mask.getD row false)) := by
  have wellFormed : openOrders.WellFormed := ⟨by decide, by decide⟩
  have filled := (apply_rowwise openOrders wellFormed [2, 0, 2] (by decide)).1 fillGaps _ rfl rfl
  have filtered := (apply_rowwise openOrders wellFormed [2, 1, 2] (by decide)).2 hasAmount _ rfl
  obtain ⟨mask, masked, -, -, kept⟩ := filtered
  exact ⟨wellFormed, by decide, rfl, filled, mask, masked, kept⟩

end Transform

end TableFlow
