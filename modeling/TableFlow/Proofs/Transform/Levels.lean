import TableFlow.Proofs.Table.Rows
import TableFlow.Proofs.Transform.Aggregate
import TableFlow.Transform.Rollup

/-!
# The rows of a rollup

A rollup aggregates a table once for each level and stacks the results.  So its rows are nodes, each
a level with a group of rows by the keys of the level, and what stands in a row can be told from the
node alone.

Main statement: `Rollup.lists_apply`.
-/

namespace TableFlow

namespace Rollup

variable {rollup : Rollup} {table output : Table}

/-- The keys of a level: those of the rollup, and the columns from the coarsest one to that of the
level. -/
def keysAt (rollup : Rollup) (depth : Nat) : List String :=
  rollup.keys ++ rollup.hierarchy.take (depth + 1)

/-- The aggregate of a level. -/
def aggregateAt (rollup : Rollup) (depth : Nat) : Aggregate :=
  { keys := rollup.keysAt depth, aggregations := rollup.aggregations, keepRows := false }

/-- The column of a level. -/
def ownColumn (rollup : Rollup) (depth : Nat) : String :=
  rollup.hierarchy.getD depth ""

/-- The groups of a level. -/
def groupsAt (rollup : Rollup) (table : Table) (depth : Nat) : List (List Nat) :=
  (table.groupRows (rollup.keysAt depth)).toOption.getD []

/-- A row of a rollup: the depth of its level, and the rows of the table that are summed up in
it. -/
structure Node where
  depth : Nat
  rows : List Nat

/-- The nodes of all levels, those of the coarsest one first. -/
def nodes (rollup : Rollup) (table : Table) : List Node :=
  (List.range rollup.hierarchy.length).flatMap fun depth =>
    (rollup.groupsAt table depth).map (Node.mk depth)

/-- The rows can be grouped by the keys of a level, and everything can be computed for the
groups. -/
def Computes (rollup : Rollup) (table : Table) (depth : Nat) : Prop :=
  table.groupRows (rollup.keysAt depth) = .ok (rollup.groupsAt table depth) ∧
    ∀ part ∈ (rollup.aggregateAt depth).parts, part.Computes table (rollup.groupsAt table depth)

/-- The cell of a node in the aggregate of its level. -/
def levelCell (rollup : Rollup) (table : Table) (node : Node) (name : String) : Cell :=
  (((rollup.aggregateAt node.depth).lastPart? name).map
      fun part => part.result table node.rows).getD
    (if name ∈ rollup.keysAt node.depth then table.cellAt (node.rows.headD 0) name else .null)

def nodeCell (rollup : Rollup) (table : Table) (node : Node) (name : String) : Cell :=
  if name = rollup.parentColumn then
    ((rollup.hierarchy.take node.depth).getLast?.map (rollup.levelCell table node)).getD .null
  else if name = rollup.levelColumn then .text (rollup.ownColumn node.depth)
  else if name = rollup.labelColumn then
    rollup.levelCell table node (rollup.ownColumn node.depth)
  else rollup.levelCell table node name

theorem cellAt_broadcast (name : String) (cell : Cell) (rows row : Nat) :
    (Column.broadcast name cell rows).cellAt row = if row < rows then cell else .null := by
  rw [Column.cellAt, Column.broadcast, List.getD_eq_getElem?_getD, List.getElem?_replicate]
  split <;> rfl

section Annotated

variable {level : Table} {own : String} {parent : Option String}

/-- The columns that are added to a level. -/
theorem exists_of_annotate (annotated : rollup.annotate level own parent = .ok output) :
    ∃ label parentColumn, level.column own = .ok label ∧
      parentColumn.name = rollup.parentColumn ∧
      (∀ row, parentColumn.cellAt row = (parent.map (level.cellAt row)).getD .null) ∧
      (level.WellFormed → parentColumn.cells.length = level.rowCount) ∧
      level.withColumns
        [label.renamed rollup.labelColumn,
          .broadcast rollup.levelColumn (.text own) level.rowCount, parentColumn] = .ok output := by
  rw [annotate.eq_def] at annotated
  split at annotated
  · cases annotated
  · rename_i label foundLabel
    cases parent with
    | none =>
        refine ⟨label, _, foundLabel, rfl, ?_, ?_, annotated⟩
        · intro row
          rw [cellAt_broadcast, ite_self]
          rfl
        · intro _
          exact List.length_replicate
    | some parent =>
        simp only at annotated
        cases foundParent : level.column parent with
        | error error =>
            rw [foundParent] at annotated
            cases annotated
        | ok column =>
            rw [foundParent] at annotated
            refine ⟨label, _, foundLabel, rfl, ?_, ?_, annotated⟩
            · intro row
              exact (Table.cellAt_eq_of_column foundParent row).symm
            · intro wellFormed
              have fits := wellFormed.length_column foundParent
              exact fits

/-- A level with the labels of its rows, its own name and the labels of their parents. -/
theorem wellFormed_of_annotate (wellFormed : level.WellFormed)
    (annotated : rollup.annotate level own parent = .ok output) :
    output.WellFormed ∧ output.rowCount = level.rowCount := by
  obtain ⟨label, parentColumn, foundLabel, -, -, fits, added⟩ := exists_of_annotate annotated
  have labelFits := wellFormed.length_column foundLabel
  have fit : ∀ column ∈ [label.renamed rollup.labelColumn,
      .broadcast rollup.levelColumn (.text own) level.rowCount, parentColumn],
      column.cells.length = level.rowCount := by
    simp only [List.forall_mem_cons, List.not_mem_nil, false_implies, implies_true, and_true]
    exact ⟨labelFits, List.length_replicate, fits wellFormed⟩
  exact ⟨Table.givesWellFormed_withColumns wellFormed _ output added,
    (wellFormed.frames_withColumns fit added).rowCount_eq⟩

theorem cellAt_of_annotate (annotated : rollup.annotate level own parent = .ok output) {row : Nat}
    (bound : row < level.rowCount) (name : String) :
    output.cellAt row name =
      if name = rollup.parentColumn then (parent.map (level.cellAt row)).getD .null
      else if name = rollup.levelColumn then .text own
      else if name = rollup.labelColumn then level.cellAt row own
      else level.cellAt row name := by
  obtain ⟨label, parentColumn, foundLabel, named, parentCell, -, added⟩ :=
    exists_of_annotate annotated
  have labelCell := Table.cellAt_eq_of_column foundLabel row
  have levelCell := cellAt_broadcast rollup.levelColumn (.text own) level.rowCount row
  rw [if_pos bound] at levelCell
  have written : ([label.renamed rollup.labelColumn,
      .broadcast rollup.levelColumn (.text own) level.rowCount, parentColumn].reverse.find?
        fun column => column.name == name) =
      if name = rollup.parentColumn then some parentColumn
      else if name = rollup.levelColumn then
        some (.broadcast rollup.levelColumn (.text own) level.rowCount)
      else if name = rollup.labelColumn then some (label.renamed rollup.labelColumn) else none := by
    simp only [List.reverse_cons, List.reverse_nil, List.nil_append, List.cons_append]
    grind [Column.renamed, Column.broadcast]
  rw [Table.cellAt_of_withColumns added, written]
  by_cases isParent : name = rollup.parentColumn
  · rw [if_pos isParent, if_pos isParent]
    exact parentCell row
  · rw [if_neg isParent, if_neg isParent]
    by_cases isLevel : name = rollup.levelColumn
    · rw [if_pos isLevel, if_pos isLevel]
      exact levelCell
    · rw [if_neg isLevel, if_neg isLevel]
      by_cases isLabel : name = rollup.labelColumn
      · rw [if_pos isLabel, if_pos isLabel]
        exact labelCell.symm
      · rw [if_neg isLabel, if_neg isLabel]
        rfl

end Annotated

/-- The columns of a level go through its groups, node by node. -/
theorem cells_of_level {depth : Nat} {own : String} (atDepth : rollup.hierarchy[depth]? = some own)
    {level : Table} (applied : (rollup.aggregateAt depth).apply table = .ok level)
    (annotated : rollup.annotate level own (rollup.hierarchy.take depth).getLast? = .ok output) :
    rollup.Computes table depth ∧ output.WellFormed ∧
      ∀ name, (List.range output.rowCount).map (fun row => output.cellAt row name) =
        (rollup.groupsAt table depth).map fun rows => rollup.nodeCell table ⟨depth, rows⟩ name := by
  have ownEq : rollup.ownColumn depth = own := by
    rw [ownColumn, List.getD_eq_getElem?_getD, atDepth, Option.getD_some]
  have keyed : (rollup.aggregateAt depth).keys ≠ [] := by
    apply List.append_ne_nil_of_right_ne_nil
    rw [List.take_add_one, atDepth]
    exact List.append_ne_nil_of_right_ne_nil _ (List.cons_ne_nil _ _)
  obtain ⟨groups, grouped, found, computes⟩ :=
    Aggregate.exists_groupRows_of_apply applied keyed
  have groupsEq : rollup.groupsAt table depth = groups := by
    rw [groupsAt]
    exact congrArg (fun result => result.toOption.getD []) grouped
  have countEq := Aggregate.rowCount_of_drops applied rfl found
    (Aggregate.columns_ne_nil applied rfl keyed)
  have wellFormed := wellFormed_of_annotate (Aggregate.wellFormed_of_drops applied rfl) annotated
  have levelCellEq {row : Nat} {rows : List Nat} (atRow : groups[row]? = some rows) :
      level.cellAt row = rollup.levelCell table ⟨depth, rows⟩ :=
    funext (Aggregate.cellAt_of_drops applied rfl grouped atRow)
  rw [Computes, groupsEq]
  refine ⟨⟨grouped, computes⟩, wellFormed.1, ?_⟩
  intro name
  apply List.ext_getElem?
  intro row
  rw [List.getElem?_map, List.getElem?_map, wellFormed.2, countEq]
  cases atRow : groups[row]? with
  | none =>
      rw [List.getElem?_eq_none_iff] at atRow
      rw [List.getElem?_eq_none (by simpa using atRow)]
      rfl
  | some rows =>
      have bound := (List.getElem?_eq_some_iff.1 atRow).1
      rw [List.getElem?_range bound, Option.map_some, Option.map_some,
        cellAt_of_annotate annotated (countEq ▸ bound), levelCellEq atRow, nodeCell, ownEq]

/-- The tables of the levels from some depth on. -/
theorem stackCells_levels {passed rest : List String} (splits : rollup.hierarchy = passed ++ rest)
    {tables : List Table} (built : rollup.levels table passed passed.getLast? rest = .ok tables) :
    (∀ depth ∈ List.range' passed.length rest.length, rollup.Computes table depth) ∧
      ∀ name, stackCells tables name =
        (List.range' passed.length rest.length).flatMap fun depth =>
          (rollup.groupsAt table depth).map fun rows =>
            rollup.nodeCell table ⟨depth, rows⟩ name := by
  -- By induction on the columns that are left; there are as many columns passed as the level is
  -- deep.
  induction rest generalizing passed tables with
  | nil =>
      cases built
      exact ⟨by simp, fun _ => rfl⟩
  | cons own finer ih =>
      have atDepth : rollup.hierarchy[passed.length]? = some own := by simp [splits]
      have taken : rollup.hierarchy.take passed.length = passed := by simp [splits]
      have keysEq : rollup.keys ++ passed ++ [own] = rollup.keysAt passed.length := by
        simp [keysAt, splits, List.take_add_one]
      rw [levels, keysEq] at built
      split at built
      · cases built
      · rename_i level applied
        split at built
        · cases built
        · rename_i annotated annotatedEq
          split at built
          · cases built
          · rename_i later builtLater
            cases built
            obtain ⟨computes, wellFormed, cells⟩ :=
              cells_of_level atDepth applied (taken.symm ▸ annotatedEq)
            have laterSplits : rollup.hierarchy = (passed ++ [own]) ++ finer := by simp [splits]
            obtain ⟨computesLater, cellsLater⟩ :=
              ih laterSplits (List.getLast?_concat.symm ▸ builtLater)
            rw [List.length_append, List.length_singleton] at computesLater cellsLater
            rw [List.length_cons, List.range'_succ]
            refine ⟨List.forall_mem_cons.2 ⟨computes, computesLater⟩, ?_⟩
            intro name
            rw [stackCells_cons wellFormed, cells, cellsLater, List.flatMap_cons]

/-- The rows of a table are the nodes of a rollup. -/
structure Lists (rollup : Rollup) (table output : Table) : Prop where
  names_eq : output.names = rollup.outputNames
  nodup_names : rollup.outputNames.Nodup
  computes : ∀ depth < rollup.hierarchy.length, rollup.Computes table depth
  rowCount_eq : output.rowCount = (rollup.nodes table).length
  cellAt_eq : ∀ (row : Nat) (node : Node), (rollup.nodes table)[row]? = some node →
    ∀ name ∈ rollup.outputNames, output.cellAt row name = rollup.nodeCell table node name

theorem lists_apply (applied : rollup.apply table = .ok output) : rollup.Lists table output := by
  rw [apply] at applied
  split at applied
  · cases applied
  · rename_i tables built
    obtain ⟨computes, cells⟩ := stackCells_levels (rfl : rollup.hierarchy = [] ++ _) built
    rw [List.length_nil, ← List.range_eq_range'] at computes cells
    have cellsEq (name : String) : stackCells tables name =
        (rollup.nodes table).map fun node => rollup.nodeCell table node name := by
      rw [cells, nodes, List.map_flatMap]
      simp only [List.map_map, Function.comp_def]
    simp only [cellsEq] at applied
    obtain ⟨columnsEq, -, wellFormed⟩ := Table.ofColumns_eq_ok_iff.1 applied
    have namesEq : output.names = rollup.outputNames := by
      rw [Table.names, columnsEq, List.map_map]
      exact List.map_id _
    have columnOf {name : String} (member : name ∈ rollup.outputNames) :
        ⟨name, (rollup.nodes table).map fun node => rollup.nodeCell table node name⟩ ∈
          output.columns :=
      columnsEq ▸ List.mem_map_of_mem member
    exact
      { names_eq := namesEq
        nodup_names := namesEq ▸ wellFormed.nodup_names
        computes := fun depth bound => computes depth (List.mem_range.2 bound)
        rowCount_eq := by
          have member : rollup.labelColumn ∈ rollup.outputNames := by simp [outputNames]
          rw [← wellFormed.length_cells _ (columnOf member), List.length_map]
        cellAt_eq := by
          intro row node atRow name member
          rw [Table.cellAt_eq_of_column (wellFormed.column_of_mem (columnOf member))]
          exact Column.cellAt_map atRow _ _ }

end Rollup

end TableFlow
