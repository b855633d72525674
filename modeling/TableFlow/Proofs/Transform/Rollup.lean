import TableFlow.Proofs.Transform.Functions
import TableFlow.Proofs.Transform.Levels

/-!
# Rollups are forests

Each level of a rollup is aggregated from the rows of the table, on its own.  The levels fit
together all the same, since the keys of a level are those of the coarser one and one more: every
row below the coarsest level has one parent, whose label it tells, and numbers that add up over rows
of the table add up over the children of a row.

No column is written over another one, since the names of the result have to differ.

Main statement: `Rollup.isForest_apply`.
-/

namespace TableFlow

open TableFlow.Number

namespace Rollup

variable {rollup : Rollup} {table output : Table} {depth : Nat} {name : String}

/-- The functions of a rollup with the columns they read and write. -/
def parts (rollup : Rollup) : List Aggregate.Part :=
  rollup.aggregations.flatMap Aggregate.partsOf

/-- The rows with the name of a level. -/
def levelRows (rollup : Rollup) (output : Table) (depth : Nat) : List Nat :=
  (List.range output.rowCount).filter fun row =>
    (output.cellAt row rollup.levelColumn).Equals (.text (rollup.ownColumn depth))

/-- The rows of the next level that agree with a row on the keys of its own one. -/
def children (rollup : Rollup) (output : Table) (depth row : Nat) : List Nat :=
  (rollup.levelRows output (depth + 1)).filter fun child =>
    output.AgreeOn (rollup.keysAt depth) row child

theorem mem_of_mem_keysAt (isKey : name ∈ rollup.keysAt depth) :
    name ∈ rollup.keys ++ rollup.hierarchy := by
  rw [keysAt, List.mem_append] at isKey
  exact List.mem_append.2 (isKey.imp_right List.mem_of_mem_take)

theorem ownColumn_eq (bound : depth < rollup.hierarchy.length) :
    rollup.hierarchy[depth]? = some (rollup.ownColumn depth) := by
  rw [ownColumn, List.getD_eq_getElem?_getD, List.getElem?_eq_getElem bound, Option.getD_some]

theorem ownColumn_mem_keysAt (bound : depth < rollup.hierarchy.length) :
    rollup.ownColumn depth ∈ rollup.keysAt depth := by
  rw [keysAt, List.take_add_one, ownColumn_eq bound]
  simp

theorem keysAt_succ (bound : depth + 1 < rollup.hierarchy.length) :
    rollup.keysAt (depth + 1) = rollup.keysAt depth ++ [rollup.ownColumn (depth + 1)] := by
  rw [keysAt, List.take_add_one, ownColumn_eq bound, keysAt, List.append_assoc]
  rfl

theorem target_mem {part : Aggregate.Part} (member : part ∈ rollup.parts) :
    part.target ∈ rollup.aggregations.flatMap Aggregation.newColumns := by
  obtain ⟨aggregation, inRollup, inParts⟩ := List.mem_flatMap.1 member
  obtain ⟨names, inZip, rfl⟩ := List.mem_map.1 inParts
  exact List.mem_flatMap.2 ⟨aggregation, inRollup, (List.of_mem_zip inZip).2⟩

theorem map_target_partsOf_sublist (aggregation : Aggregation) :
    ((Aggregate.partsOf aggregation).map Aggregate.Part.target).Sublist aggregation.newColumns := by
  rw [Aggregate.partsOf, List.map_map]
  generalize aggregation.columns = sources
  generalize aggregation.newColumns = targets
  induction sources generalizing targets with
  | nil => exact List.nil_sublist _
  | cons source sources ih =>
      cases targets with
      | nil => exact List.nil_sublist _
      | cons target targets => exact (ih targets).cons_cons target

/-- The names of the result differ. -/
structure Distinct (rollup : Rollup) : Prop where
  hierarchy : rollup.hierarchy.Nodup
  targets : (rollup.parts.map Aggregate.Part.target).Nodup
  keys : ∀ name ∈ rollup.keys, name ∉ rollup.hierarchy
  level_ne_parent : rollup.levelColumn ≠ rollup.parentColumn
  label_ne : rollup.labelColumn ≠ rollup.parentColumn ∧ rollup.labelColumn ≠ rollup.levelColumn
  /-- The columns of the table that are kept are not written. -/
  kept : ∀ name ∈ rollup.keys ++ rollup.hierarchy,
    (∀ part ∈ rollup.parts, part.target ≠ name) ∧
      name ≠ rollup.parentColumn ∧ name ≠ rollup.levelColumn ∧ name ≠ rollup.labelColumn
  written : ∀ part ∈ rollup.parts,
    part.target ≠ rollup.parentColumn ∧ part.target ≠ rollup.levelColumn ∧
      part.target ≠ rollup.labelColumn

theorem distinct_of_nodup (nodup : rollup.outputNames.Nodup) : rollup.Distinct := by
  rw [outputNames, List.nodup_append, List.nodup_append, List.nodup_append] at nodup
  obtain ⟨⟨⟨-, hierarchy, apart⟩, targets, keptApart⟩, ends, endsApart⟩ := nodup
  simp only [List.nodup_cons, List.mem_cons, List.not_mem_nil, or_false, not_or] at ends
  simp only [List.forall_mem_cons, List.not_mem_nil, false_implies, implies_true,
    and_true] at endsApart
  exact
    { hierarchy := hierarchy
      targets := by
        rw [parts, List.map_flatMap]
        apply List.Nodup.sublist _ targets
        exact List.Sublist.flatMap_right _ fun aggregation _ =>
          map_target_partsOf_sublist aggregation
      keys := fun name isKey inHierarchy => apart name isKey name inHierarchy rfl
      level_ne_parent := ends.2.1
      label_ne := ⟨ends.1.2, ends.1.1⟩
      kept := by
        intro name isKept
        obtain ⟨notLabel, notLevel, notParent⟩ := endsApart name (List.mem_append_left _ isKept)
        refine ⟨?_, notParent, notLevel, notLabel⟩
        intro part member same
        exact keptApart name isKept part.target (target_mem member) same.symm
      written := by
        intro part member
        obtain ⟨notLabel, notLevel, notParent⟩ :=
          endsApart part.target (List.mem_append_right _ (target_mem member))
        exact ⟨notParent, notLevel, notLabel⟩ }

theorem levelCell_of_kept (distinct : rollup.Distinct) {node : Node}
    (isKept : name ∈ rollup.keys ++ rollup.hierarchy) :
    rollup.levelCell table node name =
      if name ∈ rollup.keysAt node.depth then table.cellAt (node.rows.headD 0) name else .null := by
  have unwritten : (rollup.aggregateAt node.depth).lastPart? name = none := by
    rw [Aggregate.lastPart?, List.find?_eq_none]
    intro part member
    rw [beq_iff_eq]
    exact (distinct.kept name isKept).1 part (List.mem_reverse.1 member)
  rw [levelCell, unwritten, Option.map_none, Option.getD_none]

theorem levelCell_target (distinct : rollup.Distinct) {node : Node} {part : Aggregate.Part}
    (member : part ∈ rollup.parts) :
    rollup.levelCell table node part.target = part.result table node.rows := by
  have last : (rollup.aggregateAt node.depth).lastPart? part.target = some part := by
    cases found : (rollup.aggregateAt node.depth).lastPart? part.target with
    | none =>
        rw [Aggregate.lastPart?, List.find?_eq_none] at found
        exact absurd (beq_self_eq_true _) (found part (List.mem_reverse.2 member))
    | some other =>
        rw [Aggregate.lastPart?] at found
        have inParts : other ∈ rollup.parts := List.mem_reverse.1 (List.mem_of_find?_eq_some found)
        have same := List.find?_some found
        rw [beq_iff_eq] at same
        rw [List.inj_on_of_nodup_map distinct.targets inParts member same]
  rw [levelCell, last, Option.map_some, Option.getD_some]

theorem mem_nodes_iff {node : Node} :
    node ∈ rollup.nodes table ↔
      node.depth < rollup.hierarchy.length ∧ node.rows ∈ rollup.groupsAt table node.depth := by
  rw [nodes, List.mem_flatMap]
  constructor
  · rintro ⟨depth, inRange, inLevel⟩
    obtain ⟨rows, member, rfl⟩ := List.mem_map.1 inLevel
    exact ⟨List.mem_range.1 inRange, member⟩
  · rintro ⟨bound, member⟩
    exact ⟨node.depth, List.mem_range.2 bound, List.mem_map.2 ⟨node.rows, member, rfl⟩⟩

/-- The nodes of a level. -/
theorem filter_nodes (bound : depth < rollup.hierarchy.length) (passes : List Nat → Prop)
    [DecidablePred passes] :
    ((rollup.nodes table).filter fun node => node.depth = depth ∧ passes node.rows) =
      ((rollup.groupsAt table depth).filter fun rows => passes rows).map (Node.mk depth) := by
  -- The nodes of a level have one depth, so the level passes by its rows or not at all.
  have ofLevel (other : Nat) :
      (((rollup.groupsAt table other).map (Node.mk other)).filter fun node =>
        node.depth = depth ∧ passes node.rows) =
      if other = depth then
        ((rollup.groupsAt table other).filter fun rows => passes rows).map (Node.mk other)
      else [] := by
    rw [List.filter_map]
    split <;> simp [Function.comp_def, *]
  rw [nodes, List.filter_flatMap]
  simp only [ofLevel]
  exact flatMap_range_single bound fun other =>
    ((rollup.groupsAt table other).filter fun rows => passes rows).map (Node.mk other)

namespace Lists

variable {row other : Nat} {node : Node}

theorem distinct (lists : rollup.Lists table output) : rollup.Distinct :=
  distinct_of_nodup lists.nodup_names

theorem nodup_nodes (lists : rollup.Lists table output) : (rollup.nodes table).Nodup := by
  rw [nodes, List.nodup_flatMap]
  constructor
  · intro depth inRange
    have grouped := (lists.computes depth (List.mem_range.1 inRange)).1
    apply (Table.nodup_of_groupRows grouped).map
    intro first second same
    exact (Node.mk.inj same).2
  · apply List.nodup_range.imp
    intro first second different node inFirst inSecond
    obtain ⟨rows, -, rfl⟩ := List.mem_map.1 inFirst
    obtain ⟨others, -, same⟩ := List.mem_map.1 inSecond
    exact different (congrArg Node.depth same).symm

/-- A node stands in one row. -/
theorem row_eq (lists : rollup.Lists table output) (atRow : (rollup.nodes table)[row]? = some node)
    (atOther : (rollup.nodes table)[other]? = some node) : other = row :=
  (List.getElem?_inj (List.getElem?_eq_some_iff.1 atOther).1 lists.nodup_nodes).1
    (atOther.trans atRow.symm)

/-- A key of a level, or a column of the hierarchy that is no key of it. -/
theorem cellAt_of_kept (lists : rollup.Lists table output)
    (atRow : (rollup.nodes table)[row]? = some node)
    (isKept : name ∈ rollup.keys ++ rollup.hierarchy) :
    output.cellAt row name =
      if name ∈ rollup.keysAt node.depth then table.cellAt (node.rows.headD 0) name else .null := by
  obtain ⟨-, notParent, notLevel, notLabel⟩ := lists.distinct.kept name isKept
  have inOutput : name ∈ rollup.outputNames :=
    List.mem_append_left _ (List.mem_append_left _ isKept)
  rw [lists.cellAt_eq row node atRow name inOutput, nodeCell, if_neg notParent, if_neg notLevel,
    if_neg notLabel, levelCell_of_kept lists.distinct isKept]

theorem cellAt_key (lists : rollup.Lists table output)
    (atRow : (rollup.nodes table)[row]? = some node) (isKey : name ∈ rollup.keysAt node.depth) :
    output.cellAt row name = table.cellAt (node.rows.headD 0) name := by
  rw [lists.cellAt_of_kept atRow (mem_of_mem_keysAt isKey), if_pos isKey]

theorem cellAt_finer (lists : rollup.Lists table output)
    (atRow : (rollup.nodes table)[row]? = some node)
    (isFiner : name ∈ rollup.hierarchy.drop (node.depth + 1)) : output.cellAt row name = .null := by
  have inHierarchy := List.mem_of_mem_drop isFiner
  have noKey : name ∉ rollup.keysAt node.depth := by
    rw [keysAt, List.mem_append, not_or]
    constructor
    · intro isKey
      exact lists.distinct.keys name isKey inHierarchy
    · intro isCoarser
      have nodup := lists.distinct.hierarchy
      rw [← List.take_append_drop (node.depth + 1) rollup.hierarchy, List.nodup_append] at nodup
      exact nodup.2.2 name isCoarser name isFiner rfl
  rw [lists.cellAt_of_kept atRow (List.mem_append_right _ inHierarchy), if_neg noKey]

theorem cellAt_levelColumn (lists : rollup.Lists table output)
    (atRow : (rollup.nodes table)[row]? = some node) :
    output.cellAt row rollup.levelColumn = .text (rollup.ownColumn node.depth) := by
  rw [lists.cellAt_eq row node atRow _ (by simp [outputNames]), nodeCell,
    if_neg lists.distinct.level_ne_parent, if_pos rfl]

theorem cellAt_labelColumn (lists : rollup.Lists table output)
    (atRow : (rollup.nodes table)[row]? = some node) :
    output.cellAt row rollup.labelColumn =
      table.cellAt (node.rows.headD 0) (rollup.ownColumn node.depth) := by
  have bound := (mem_nodes_iff.1 (List.mem_of_getElem? atRow)).1
  have isKey := ownColumn_mem_keysAt bound
  have apart := lists.distinct.label_ne
  rw [lists.cellAt_eq row node atRow _ (by simp [outputNames]), nodeCell, if_neg apart.1,
    if_neg apart.2, if_pos rfl, levelCell_of_kept lists.distinct (mem_of_mem_keysAt isKey),
    if_pos isKey]

theorem cellAt_parentColumn_zero (lists : rollup.Lists table output) {rows : List Nat}
    (atRow : (rollup.nodes table)[row]? = some ⟨0, rows⟩) :
    output.cellAt row rollup.parentColumn = .null := by
  rw [lists.cellAt_eq row _ atRow _ (by simp [outputNames]), nodeCell, if_pos rfl, List.take_zero]
  rfl

/-- A row tells its cell in the next coarser column. -/
theorem cellAt_parentColumn_succ (lists : rollup.Lists table output) {rows : List Nat}
    (atRow : (rollup.nodes table)[row]? = some ⟨depth + 1, rows⟩) :
    output.cellAt row rollup.parentColumn =
      table.cellAt (rows.headD 0) (rollup.ownColumn depth) := by
  have bound := (mem_nodes_iff.1 (List.mem_of_getElem? atRow)).1
  have here := ownColumn_mem_keysAt (Nat.lt_of_succ_lt bound)
  have isKey : rollup.ownColumn depth ∈ rollup.keysAt (depth + 1) := by
    rw [keysAt_succ bound]
    exact List.mem_append_left _ here
  rw [lists.cellAt_eq row _ atRow _ (by simp [outputNames]), nodeCell, if_pos rfl,
    List.take_add_one, ownColumn_eq (Nat.lt_of_succ_lt bound), Option.toList_some,
    List.getLast?_concat, Option.map_some, Option.getD_some,
    levelCell_of_kept lists.distinct (mem_of_mem_keysAt here), if_pos isKey]

theorem cellAt_target (lists : rollup.Lists table output)
    (atRow : (rollup.nodes table)[row]? = some node) {part : Aggregate.Part}
    (member : part ∈ rollup.parts) :
    output.cellAt row part.target = part.result table node.rows := by
  obtain ⟨notParent, notLevel, notLabel⟩ := lists.distinct.written part member
  have inOutput : part.target ∈ rollup.outputNames :=
    List.mem_append_left _ (List.mem_append_right _ (target_mem member))
  rw [lists.cellAt_eq row node atRow _ inOutput, nodeCell, if_neg notParent, if_neg notLevel,
    if_neg notLabel, levelCell_target lists.distinct member]

/-! ## The rows of the levels -/

theorem levelColumn_equals_iff (lists : rollup.Lists table output)
    (atRow : (rollup.nodes table)[row]? = some node) (bound : depth < rollup.hierarchy.length) :
    (output.cellAt row rollup.levelColumn).Equals (.text (rollup.ownColumn depth)) ↔
      node.depth = depth := by
  rw [lists.cellAt_levelColumn atRow, Cell.text_equals_iff]
  constructor
  · intro same
    have within := (mem_nodes_iff.1 (List.mem_of_getElem? atRow)).1
    apply (List.getElem?_inj within lists.distinct.hierarchy).1
    rw [ownColumn_eq within, ownColumn_eq bound, same]
  · exact congrArg rollup.ownColumn

/-- The rows with the name of a level are its nodes. -/
theorem mem_levelRows_iff (lists : rollup.Lists table output)
    (bound : depth < rollup.hierarchy.length) :
    row ∈ rollup.levelRows output depth ↔
      ∃ rows ∈ rollup.groupsAt table depth, (rollup.nodes table)[row]? = some ⟨depth, rows⟩ := by
  rw [levelRows, List.mem_filter, List.mem_range, lists.rowCount_eq, decide_eq_true_eq]
  constructor
  · rintro ⟨within, equal⟩
    have atRow := List.getElem?_eq_getElem within
    have depthEq := (lists.levelColumn_equals_iff atRow bound).1 equal
    have inLevel := (mem_nodes_iff.1 (List.getElem_mem within)).2
    generalize (rollup.nodes table)[row] = node at atRow depthEq inLevel
    subst depthEq
    exact ⟨node.rows, inLevel, atRow⟩
  · rintro ⟨rows, inLevel, atRow⟩
    exact ⟨(List.getElem?_eq_some_iff.1 atRow).1, (lists.levelColumn_equals_iff atRow bound).2 rfl⟩

/-- Each row of the table has one row on each level with its keys, that of its group. -/
theorem exists_levelRow (lists : rollup.Lists table output)
    (bound : depth < rollup.hierarchy.length) {source : Nat} (inside : source < table.rowCount) :
    ∃ (up : Nat) (rows : List Nat), (rollup.nodes table)[up]? = some ⟨depth, rows⟩ ∧
      source ∈ rows ∧ ∀ other, (other ∈ rollup.levelRows output depth ∧
        ∀ name ∈ rollup.keysAt depth,
          (table.cellAt source name).Equals (output.cellAt other name)) ↔ other = up := by
  have grouped := (lists.computes depth bound).1
  obtain ⟨index, rows, atIndex, inRows⟩ := Table.exists_group_of_lt grouped inside
  have member := List.mem_of_getElem? atIndex
  obtain ⟨up, atUp⟩ := List.mem_iff_getElem?.1
    (mem_nodes_iff.2 ⟨bound, member⟩ : Node.mk depth rows ∈ rollup.nodes table)
  refine ⟨up, rows, atUp, inRows, ?_⟩
  intro other
  rw [lists.mem_levelRows_iff bound]
  constructor
  · rintro ⟨⟨others, inLevel, atOther⟩, agree⟩
    -- The groups have rows that agree, so they are one group.
    have first := Table.headD_mem_group grouped inLevel
    have same : table.AgreeOn (rollup.keysAt depth) source (others.headD 0) := by
      intro name isKey
      exact lists.cellAt_key atOther isKey ▸ agree name isKey
    have inOthers := (Table.mem_group_iff grouped inLevel first).2 ⟨inside, same.symm⟩
    have groupEq : others = rows := by
      rw [Table.group_eq_filter grouped inLevel inOthers,
        ← Table.group_eq_filter grouped member inRows]
    exact lists.row_eq atUp (groupEq ▸ atOther)
  · rintro rfl
    refine ⟨⟨rows, member, atUp⟩, ?_⟩
    intro name isKey
    have first := Table.headD_mem_group grouped member
    rw [lists.cellAt_key atUp isKey]
    exact ((Table.mem_group_iff grouped member inRows).1 first).2 name isKey

/-- A row below the coarsest level has one parent, and tells its label. -/
theorem exists_parent (lists : rollup.Lists table output)
    (bound : depth + 1 < rollup.hierarchy.length)
    (inLevel : row ∈ rollup.levelRows output (depth + 1)) :
    ∃ up, (∀ other, (other ∈ rollup.levelRows output depth ∧
        output.AgreeOn (rollup.keysAt depth) row other) ↔ other = up) ∧
      (output.cellAt row rollup.parentColumn).Equals (output.cellAt up rollup.labelColumn) := by
  have coarser := Nat.lt_of_succ_lt bound
  obtain ⟨rows, member, atRow⟩ := (lists.mem_levelRows_iff bound).1 inLevel
  have first := Table.headD_mem_group (lists.computes _ bound).1 member
  have inside : rows.headD 0 < table.rowCount :=
    List.mem_range.1 ((Table.isPartition_groupRows (lists.computes _ bound).1).mem member first)
  obtain ⟨up, upRows, atUp, inRows, only⟩ := lists.exists_levelRow coarser inside
  have keyCell {name : String} (isKey : name ∈ rollup.keysAt depth) :
      output.cellAt row name = table.cellAt (rows.headD 0) name := by
    apply lists.cellAt_key atRow
    rw [keysAt_succ bound]
    exact List.mem_append_left _ isKey
  refine ⟨up, ?_, ?_⟩
  · intro other
    rw [← only, Table.AgreeOn]
    apply and_congr_right
    intro _
    apply forall₂_congr
    intro name isKey
    rw [keyCell isKey]
  · have ofUp := ((only up).2 rfl).2 _ (ownColumn_mem_keysAt coarser)
    rw [lists.cellAt_key atUp (ownColumn_mem_keysAt coarser)] at ofUp
    rw [lists.cellAt_parentColumn_succ atRow, lists.cellAt_labelColumn atUp]
    exact ofUp

/-- The children of a row are the groups of the next level within its own group. -/
theorem map_children (lists : rollup.Lists table output)
    (bound : depth + 1 < rollup.hierarchy.length) {rows : List Nat}
    (atRow : (rollup.nodes table)[row]? = some ⟨depth, rows⟩) {part : Aggregate.Part}
    (member : part ∈ rollup.parts) {α : Type} (view : Cell → α) :
    ((rollup.children output depth row).map fun child => view (output.cellAt child part.target)) =
      ((rollup.groupsAt table (depth + 1)).filter fun group =>
        table.AgreeOn (rollup.keysAt depth) (rows.headD 0) (group.headD 0)).map fun group =>
          view (part.result table group) := by
  have passes (child : Nat) (node : Node) (atChild : (rollup.nodes table)[child]? = some node) :
      (decide (output.AgreeOn (rollup.keysAt depth) row child) &&
          decide ((output.cellAt child rollup.levelColumn).Equals
            (.text (rollup.ownColumn (depth + 1))))) =
        decide (node.depth = depth + 1 ∧
          table.AgreeOn (rollup.keysAt depth) (rows.headD 0) (node.rows.headD 0)) := by
    rw [Bool.eq_iff_iff, Bool.and_eq_true, decide_eq_true_eq, decide_eq_true_eq, decide_eq_true_eq,
      lists.levelColumn_equals_iff atChild bound, and_comm]
    apply and_congr_right
    intro depthEq
    rw [Table.AgreeOn, Table.AgreeOn]
    apply forall₂_congr
    intro name isKey
    have isKeyBelow : name ∈ rollup.keysAt node.depth := by
      rw [depthEq, keysAt_succ bound]
      exact List.mem_append_left _ isKey
    rw [lists.cellAt_key atRow isKey, lists.cellAt_key atChild isKeyBelow]
  rw [children, levelRows, List.filter_filter, lists.rowCount_eq,
    map_filter_range passes fun child node atChild _ =>
      congrArg view (lists.cellAt_target atChild member),
    filter_nodes bound fun group =>
      table.AgreeOn (rollup.keysAt depth) (rows.headD 0) (group.headD 0), List.map_map]
  rfl

/-- What is summed over the rows of a group is summed over the groups of the next level in it. -/
theorem sum_rows_eq (lists : rollup.Lists table output)
    (bound : depth + 1 < rollup.hierarchy.length) {rows : List Nat}
    (atRow : (rollup.nodes table)[row]? = some ⟨depth, rows⟩) (weight : Nat → Int) :
    (rows.map weight).sum =
      (((rollup.groupsAt table (depth + 1)).filter fun group =>
        table.AgreeOn (rollup.keysAt depth) (rows.headD 0) (group.headD 0)).map fun group =>
          (group.map weight).sum).sum := by
  have member : rows ∈ rollup.groupsAt table depth :=
    (mem_nodes_iff.1 (List.mem_of_getElem? atRow)).2
  have grouped := (lists.computes depth (Nat.lt_of_succ_lt bound)).1
  have groupedBelow := (lists.computes (depth + 1) bound).1
  rw [keysAt_succ bound] at groupedBelow
  have rowsEq := Table.group_eq_filter grouped member (Table.headD_mem_group grouped member)
  rw [← Table.sum_eq_sum_finer groupedBelow weight, ← rowsEq]

end Lists

section Totals

variable {part : Aggregate.Part} {rows : List Nat}

theorem result_of_sum (isSum : part.function = .sum) {column : Column}
    (found : table.column part.source = .ok column) (only : column.HoldsOnly .integer)
    (succeeds : ∃ cell, part.function.apply column rows = .ok cell) :
    (part.result table rows).OfKind .integer ∧
      (part.result table rows).amount =
        (rows.map fun row => (table.cellAt row part.source).amount).sum := by
  obtain ⟨cell, applied⟩ := succeeds
  rw [Aggregate.Part.result_eq found applied]
  simp only [Table.cellAt_eq_of_column found]
  rw [isSum, AggregateFunction.apply] at applied
  have integers : ∀ cell ∈ rows.map column.cellAt, cell.OfKind .integer := by
    rw [List.forall_mem_map]
    intro row _
    exact only.cellAt row
  have total : (rows.map fun row => (column.cellAt row).amount) =
      (rows.map column.cellAt).map Cell.amount := by
    rw [List.map_map]
    rfl
  rw [total]
  cases AggregateFunction.yields_of_adds integers (.inl rfl) applied with
  | nothing _ empty =>
      refine ⟨.inl rfl, (List.sum_eq_zero ?_).symm⟩
      rw [List.forall_mem_map]
      intro cell member
      rw [empty cell member]
      rfl
  | sum exact => exact ⟨.inr rfl, exact⟩

/-- What a row adds to the count of a part. -/
def presence (part : Aggregate.Part) (table : Table) (row : Nat) : Int :=
  if (table.cellAt row part.source).isNull then 0 else 1

theorem length_filled_eq_sum {column : Column} (found : table.column part.source = .ok column)
    (rows : List Nat) :
    ((Cell.filled (rows.map column.cellAt)).length : Int) =
      (rows.map (presence part table)).sum := by
  induction rows with
  | nil => rfl
  | cons row rows ih =>
      rw [List.map_cons, List.map_cons, List.sum_cons, ← ih, presence,
        Table.cellAt_eq_of_column found]
      cases empty : (column.cellAt row).isNull with
      | true => simp [Cell.filled, empty]
      | false => simp [Cell.filled, empty, Int.add_comm]

theorem result_of_count (isCount : part.function = .count) {column : Column}
    (found : table.column part.source = .ok column) (rows : List Nat) :
    part.result table rows =
      .integer (Int64.ofInt (rows.map (presence part table)).sum) := by
  rw [← length_filled_eq_sum found, Int64.ofInt_eq_ofNat]
  apply Aggregate.Part.result_eq found
  rw [isCount]
  exact AggregateFunction.reduce_count _

/-- A table whose rows can be counted by a word has exact counts. -/
theorem amount_of_count (isCount : part.function = .count) {column : Column}
    (found : table.column part.source = .ok column) (rows : List Nat)
    (fits : IsWord rows.length) :
    (part.result table rows).amount = (rows.map (presence part table)).sum := by
  have few : (Cell.filled (rows.map column.cellAt)).length ≤ rows.length :=
    (List.length_filter_le ..).trans_eq (List.length_map ..)
  have upper := fits.2
  rw [result_of_count isCount found, Cell.amount, ← length_filled_eq_sum found]
  apply Int64.toInt_ofInt_of_le
  · omega
  · rw [greatestWord] at upper
    omega

/-- Adding up words gives the word of the sum. -/
theorem ofInt_sum_toInt (totals : List Int) :
    Int64.ofInt (totals.map fun total => (Int64.ofInt total).toInt).sum =
      Int64.ofInt totals.sum := by
  induction totals with
  | nil => rfl
  | cons total rest ih =>
      rw [List.map_cons, List.sum_cons, List.sum_cons, Int64.ofInt_add, Int64.ofInt_toInt, ih,
        Int64.ofInt_add]

/-- A row and its children have integers or nothing under a name, and the children add up to the
row. -/
def AddsUp (rollup : Rollup) (output : Table) (depth row : Nat) (target : String) : Prop :=
  (∀ line ∈ row :: rollup.children output depth row, (output.cellAt line target).OfKind .integer) ∧
    (output.cellAt row target).amount =
      ((rollup.children output depth row).map fun child => (output.cellAt child target).amount).sum

namespace Lists

variable {row : Nat}

/-- A result is that of its function on the rows of the table with the keys of the row. -/
theorem exists_apply_eq (lists : rollup.Lists table output)
    (bound : depth < rollup.hierarchy.length) (member : part ∈ rollup.parts)
    (inLevel : row ∈ rollup.levelRows output depth) :
    ∃ column, table.column part.source = .ok column ∧
      part.function.apply column ((List.range table.rowCount).filter fun source =>
        ∀ name ∈ rollup.keysAt depth,
          (output.cellAt row name).Equals (table.cellAt source name)) =
        .ok (output.cellAt row part.target) := by
  obtain ⟨rows, inGroups, atRow⟩ := (lists.mem_levelRows_iff bound).1 inLevel
  obtain ⟨grouped, computes⟩ := lists.computes depth bound
  obtain ⟨column, found, -, succeeds⟩ := computes part member
  obtain ⟨cell, applied⟩ := succeeds rows inGroups
  have rowsEq : ((List.range table.rowCount).filter fun source =>
      ∀ name ∈ rollup.keysAt depth,
        (output.cellAt row name).Equals (table.cellAt source name)) = rows := by
    rw [Table.group_eq_filter grouped inGroups (Table.headD_mem_group grouped inGroups)]
    apply List.filter_congr
    intro source _
    rw [decide_eq_decide, Table.AgreeOn]
    apply forall₂_congr
    intro name isKey
    rw [lists.cellAt_key atRow isKey]
  refine ⟨column, found, ?_⟩
  rw [rowsEq, lists.cellAt_target atRow member, Aggregate.Part.result_eq found applied, applied]

/-- A function that sums over the rows of a group also sums over the children of a row. -/
theorem addsUp (lists : rollup.Lists table output) (bound : depth + 1 < rollup.hierarchy.length)
    (member : part ∈ rollup.parts) {weight : Nat → Int}
    (sums : ∀ depth < rollup.hierarchy.length, ∀ group ∈ rollup.groupsAt table depth,
      (part.result table group).OfKind .integer ∧
        (part.result table group).amount = (group.map weight).sum)
    (inLevel : row ∈ rollup.levelRows output depth) :
    rollup.AddsUp output depth row part.target := by
  have coarser := Nat.lt_of_succ_lt bound
  obtain ⟨rows, inGroups, atRow⟩ := (lists.mem_levelRows_iff coarser).1 inLevel
  have ofRow := sums depth coarser rows inGroups
  constructor
  · rw [List.forall_mem_cons]
    constructor
    · rw [lists.cellAt_target atRow member]
      exact ofRow.1
    · intro child isChild
      obtain ⟨group, inBelow, atChild⟩ :=
        (lists.mem_levelRows_iff bound).1 (List.mem_filter.1 isChild).1
      rw [lists.cellAt_target atChild member]
      exact (sums (depth + 1) bound group inBelow).1
  · -- Both totals are sums over rows of the table, taken in one group or in the groups below it.
    rw [lists.cellAt_target atRow member, lists.map_children bound atRow member, ofRow.2,
      lists.sum_rows_eq bound atRow]
    apply congrArg
    apply List.map_congr_left
    intro group inBelow
    exact (sums (depth + 1) bound group (List.mem_filter.1 inBelow).1).2.symm

theorem addsUp_of_sum (lists : rollup.Lists table output)
    (bound : depth + 1 < rollup.hierarchy.length) (member : part ∈ rollup.parts)
    (isSum : part.function = .sum) {column : Column}
    (found : table.column part.source = .ok column) (only : column.HoldsOnly .integer)
    (inLevel : row ∈ rollup.levelRows output depth) :
    rollup.AddsUp output depth row part.target := by
  apply lists.addsUp bound member _ inLevel
  · exact fun row => (table.cellAt row part.source).amount
  · intro depth within group inGroups
    obtain ⟨other, foundOther, -, succeeds⟩ := (lists.computes depth within).2 part member
    cases foundOther.symm.trans found
    exact result_of_sum isSum found only (succeeds group inGroups)

theorem wraps_of_count (lists : rollup.Lists table output)
    (bound : depth + 1 < rollup.hierarchy.length) (member : part ∈ rollup.parts)
    (isCount : part.function = .count) (inLevel : row ∈ rollup.levelRows output depth) :
    output.cellAt row part.target =
      .integer (Int64.ofInt ((rollup.children output depth row).map fun child =>
        (output.cellAt child part.target).amount).sum) := by
  obtain ⟨rows, -, atRow⟩ := (lists.mem_levelRows_iff (Nat.lt_of_succ_lt bound)).1 inLevel
  obtain ⟨column, found, -⟩ := (lists.computes (depth + 1) bound).2 part member
  rw [lists.cellAt_target atRow member, lists.map_children bound atRow member,
    result_of_count isCount found, lists.sum_rows_eq bound atRow, ← ofInt_sum_toInt, List.map_map]
  simp only [result_of_count isCount found, Function.comp_def, Cell.amount]

theorem addsUp_of_count (lists : rollup.Lists table output)
    (bound : depth + 1 < rollup.hierarchy.length) (member : part ∈ rollup.parts)
    (isCount : part.function = .count) (fits : IsWord table.rowCount)
    (inLevel : row ∈ rollup.levelRows output depth) :
    rollup.AddsUp output depth row part.target := by
  apply lists.addsUp bound member _ inLevel
  · exact presence part table
  · intro depth within group inGroups
    obtain ⟨grouped, computes⟩ := lists.computes depth within
    obtain ⟨column, found, -⟩ := computes part member
    have few : group.length ≤ table.rowCount := by
      rw [Table.group_eq_filter grouped inGroups (Table.headD_mem_group grouped inGroups)]
      exact (List.length_filter_le ..).trans_eq List.length_range
    have fitsGroup : IsWord group.length := by
      have upper := fits.2
      constructor
      · rw [leastWord]
        omega
      · omega
    refine ⟨?_, amount_of_count isCount found group fitsGroup⟩
    rw [result_of_count isCount found]
    exact .inr rfl

end Lists

end Totals

/-! ## The forest -/

/-- The rows of a table are a forest over the rows of another one.  A level has the rows with its
name in the level column. -/
structure IsForest (rollup : Rollup) (table output : Table) : Prop where
  names_eq : output.names = rollup.outputNames
  /-- Every row is on a level. -/
  level : ∀ row < output.rowCount, ∃ depth < rollup.hierarchy.length,
    row ∈ rollup.levelRows output depth
  /-- Every row of the table has one row on each level with its keys. -/
  source : ∀ depth < rollup.hierarchy.length, ∀ row < table.rowCount,
    ∃ up, ∀ other, (other ∈ rollup.levelRows output depth ∧
      ∀ name ∈ rollup.keysAt depth,
        (table.cellAt row name).Equals (output.cellAt other name)) ↔ other = up
  /-- Every row below the coarsest level has one parent, and tells its label. -/
  parent : ∀ depth, depth + 1 < rollup.hierarchy.length →
    ∀ row ∈ rollup.levelRows output (depth + 1),
      ∃ up, (∀ other, (other ∈ rollup.levelRows output depth ∧
          output.AgreeOn (rollup.keysAt depth) row other) ↔ other = up) ∧
        (output.cellAt row rollup.parentColumn).Equals (output.cellAt up rollup.labelColumn)
  root : 0 < rollup.hierarchy.length → ∀ row ∈ rollup.levelRows output 0,
    output.cellAt row rollup.parentColumn = .null
  finer : ∀ depth < rollup.hierarchy.length, ∀ row ∈ rollup.levelRows output depth,
    ∀ name ∈ rollup.hierarchy.drop (depth + 1), output.cellAt row name = .null
  /-- The results of a row come from the rows of the table with its keys. -/
  result : ∀ part ∈ rollup.parts, ∀ depth < rollup.hierarchy.length,
    ∀ row ∈ rollup.levelRows output depth,
      ∃ column, table.column part.source = .ok column ∧
        part.function.apply column ((List.range table.rowCount).filter fun source =>
          ∀ name ∈ rollup.keysAt depth,
            (output.cellAt row name).Equals (table.cellAt source name)) =
          .ok (output.cellAt row part.target)
  /-- Sums of integers add up. -/
  sum : ∀ part ∈ rollup.parts, part.function = .sum →
    ∀ column, table.column part.source = .ok column → column.HoldsOnly .integer →
      ∀ depth, depth + 1 < rollup.hierarchy.length → ∀ row ∈ rollup.levelRows output depth,
        rollup.AddsUp output depth row part.target
  /-- Counts add up as words, and exactly if the table does not have more rows than words can
  count. -/
  count : ∀ part ∈ rollup.parts, part.function = .count →
    ∀ depth, depth + 1 < rollup.hierarchy.length → ∀ row ∈ rollup.levelRows output depth,
      output.cellAt row part.target =
          .integer (Int64.ofInt ((rollup.children output depth row).map fun child =>
            (output.cellAt child part.target).amount).sum) ∧
        (IsWord table.rowCount → rollup.AddsUp output depth row part.target)

/-- A rollup that succeeds is a forest over the rows of its table. -/
theorem isForest_apply (rollup : Rollup) (table output : Table)
    (applied : rollup.apply table = .ok output) : rollup.IsForest table output := by
  have lists := lists_apply applied
  exact
    { names_eq := lists.names_eq
      level := by
        intro row within
        rw [lists.rowCount_eq] at within
        obtain ⟨bound, inGroups⟩ := mem_nodes_iff.1 (List.getElem_mem within)
        exact ⟨_, bound, (lists.mem_levelRows_iff bound).2
          ⟨_, inGroups, List.getElem?_eq_getElem within⟩⟩
      source := by
        intro depth bound row inside
        obtain ⟨up, -, -, -, only⟩ := lists.exists_levelRow bound inside
        exact ⟨up, only⟩
      parent := by
        intro depth bound row inLevel
        exact lists.exists_parent bound inLevel
      root := by
        intro bound row inLevel
        obtain ⟨rows, -, atRow⟩ := (lists.mem_levelRows_iff bound).1 inLevel
        exact lists.cellAt_parentColumn_zero atRow
      finer := by
        intro depth bound row inLevel name isFiner
        obtain ⟨rows, -, atRow⟩ := (lists.mem_levelRows_iff bound).1 inLevel
        exact lists.cellAt_finer atRow isFiner
      result := by
        intro part member depth bound row inLevel
        exact lists.exists_apply_eq bound member inLevel
      sum := by
        intro part member isSum column found only depth bound row inLevel
        exact lists.addsUp_of_sum bound member isSum found only inLevel
      count := by
        intro part member isCount depth bound row inLevel
        exact ⟨lists.wraps_of_count bound member isCount inLevel,
          fun fits => lists.addsUp_of_count bound member isCount fits inLevel⟩ }

/-- Orders of one year: a town of one name in every region, one order without a town, one without a
region and one without an amount. -/
def orders : Table :=
  { columns :=
      [⟨"year", [.integer 2020, .integer 2020, .integer 2020, .integer 2020, .integer 2020]⟩,
       ⟨"region", [.text "east", .text "east", .text "west", .text "west", .null]⟩,
       ⟨"town", [.text "a", .text "b", .text "a", .null, .text "a"]⟩,
       ⟨"amount", [.integer 1, .null, .integer 5, .integer 7, .integer 2]⟩]
    rowCount := 5 }

/-- Sums and numbers of the orders by region, and by region and town. -/
def byRegionAndTown : Rollup :=
  { hierarchy := ["region", "town"]
    aggregations := [⟨["amount"], .sum, ["total"]⟩, ⟨["amount"], .count, ["orders"]⟩]
    keys := ["year"]
    labelColumn := "label"
    levelColumn := "level"
    parentColumn := "parent" }

/-- The regions, and then the towns. -/
def regionsAndTowns : Table :=
  { columns :=
      [⟨"year", List.replicate 8 (.integer 2020)⟩,
       ⟨"region", [.text "east", .text "west", .null, .text "east", .text "east", .text "west",
         .text "west", .null]⟩,
       ⟨"town", [.null, .null, .null, .text "a", .text "b", .text "a", .null, .text "a"]⟩,
       ⟨"total", [.integer 1, .integer 12, .integer 2, .integer 1, .null, .integer 5, .integer 7,
         .integer 2]⟩,
       ⟨"orders", [.integer 1, .integer 2, .integer 1, .integer 1, .integer 0, .integer 1,
         .integer 1, .integer 1]⟩,
       ⟨"label", [.text "east", .text "west", .null, .text "a", .text "b", .text "a", .null,
         .text "a"]⟩,
       ⟨"level", [.text "region", .text "region", .text "region", .text "town", .text "town",
         .text "town", .text "town", .text "town"]⟩,
       ⟨"parent", [.null, .null, .null, .text "east", .text "east", .text "west", .text "west",
         .null]⟩]
    rowCount := 8 }

/-- A town of one name is a row of its own in each region, and orders without a region or a town are
nodes too. -/
theorem isForest_apply_orders :
    byRegionAndTown.apply orders = .ok regionsAndTowns ∧
      byRegionAndTown.children regionsAndTowns 0 1 = [5, 6] ∧
      byRegionAndTown.IsForest orders regionsAndTowns := by
  have applied : byRegionAndTown.apply orders = .ok regionsAndTowns := rfl
  exact ⟨applied, by decide, isForest_apply byRegionAndTown orders regionsAndTowns applied⟩

end Rollup

end TableFlow
