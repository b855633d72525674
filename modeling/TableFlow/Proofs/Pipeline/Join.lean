import TableFlow.Pipeline.Run
import TableFlow.Proofs.Pipeline.Matching
import TableFlow.Proofs.Table.Frame

/-!
# Joined tables

A join takes the left columns in the rows of its pairs and puts the right columns behind them, one
after the other.  A right column whose name is taken gets suffixes until its name is free; each
suffix gives a longer name, so only finitely many of them can be taken.  So no column is ever
written over, and the rows of the result are those of two nested loops.

Main statements: `Step.execute_join_columns` and `Step.execute_join_rows`.
-/

namespace TableFlow

/-- A name followed by some suffixes. -/
def suffixed (name : String) : Nat → String
  | 0 => name
  | count + 1 => suffixed name count ++ rightSuffix

theorem suffixed_append (name : String) (count : Nat) :
    suffixed (name ++ rightSuffix) count = suffixed name (count + 1) := by
  induction count with
  | zero => rfl
  | succ count ih =>
      rw [suffixed, ih]
      rfl

theorem length_suffixed (name : String) (count : Nat) :
    (suffixed name count).length = name.length + 6 * count := by
  induction count with
  | zero => rfl
  | succ count ih =>
      have suffix : rightSuffix.length = 6 := by decide
      rw [suffixed, String.length_append, ih, suffix]
      omega

/-- A name with the fewest suffixes that make it differ from the names taken. -/
def IsFirstFree (taken : List String) (name free : String) : Prop :=
  ∃ count, free = suffixed name count ∧ free ∉ taken ∧ ∀ fewer < count, suffixed name fewer ∈ taken

/-- Among more names than are taken one is free. -/
theorem exists_suffixed_not_mem (taken : List String) (name : String) :
    ∃ count < taken.length + 1, suffixed name count ∉ taken := by
  by_contra none
  push Not at none
  have nodup : ((List.range (taken.length + 1)).map (suffixed name)).Nodup := by
    refine List.nodup_range.map ?_
    intro first second same
    have lengths := congrArg String.length same
    rw [length_suffixed, length_suffixed] at lengths
    omega
  have subset : (List.range (taken.length + 1)).map (suffixed name) ⊆ taken := by
    intro other member
    obtain ⟨count, inside, rfl⟩ := List.mem_map.1 member
    exact none count (List.mem_range.1 inside)
  have bound := (List.subperm_of_subset nodup subset).length_le
  simp at bound

/-- The search ends at the first free name if there is one within its tries. -/
theorem isFirstFree_freeName {taken : List String} {tries : Nat} {name : String}
    (free : ∃ count < tries, suffixed name count ∉ taken) :
    IsFirstFree taken name (freeName taken tries name) := by
  induction tries generalizing name with
  | zero =>
      obtain ⟨count, impossible, -⟩ := free
      exact absurd impossible (Nat.not_lt_zero count)
  | succ tries ih =>
      rw [freeName]
      split
      · rename_i used
        have taken0 : suffixed name 0 ∈ taken := by simpa [suffixed] using used
        -- The name itself is taken, so the free one has a suffix, and the search goes on behind it.
        have later : ∃ count < tries, suffixed (name ++ rightSuffix) count ∉ taken := by
          obtain ⟨count, bound, unused⟩ := free
          cases count with
          | zero => exact absurd taken0 unused
          | succ count => exact ⟨count, by omega, by rwa [suffixed_append]⟩
        obtain ⟨count, found, unused, fewer⟩ := ih later
        refine ⟨count + 1, by rw [found, suffixed_append], unused, ?_⟩
        intro less bound
        cases less with
        | zero => exact taken0
        | succ less =>
            rw [← suffixed_append]
            exact fewer less (by omega)
      · rename_i unused
        exact ⟨0, rfl, by simpa using unused, by simp⟩

/-- The cell of a right row in a column; empty if there is no such row. -/
def Column.cellBeside (column : Column) (row : Option Nat) : Cell :=
  row.elim .null column.cellAt

/-- A right column in the rows of a join, under the name it gets there. -/
def joinedColumn (pairs : List (Nat × Option Nat)) (entry : Column × String) : Column :=
  { name := entry.2, cells := pairs.map fun pair => entry.1.cellBeside pair.2 }

theorem joinedCells_eq (column : Column) (pairs : List (Nat × Option Nat)) :
    joinedCells column pairs = pairs.map fun pair => column.cellBeside pair.2 := by
  rw [joinedCells]
  congr 1
  funext pair
  obtain ⟨left, right⟩ := pair
  cases right <;> rfl

/-- Columns that get names one after the other, each the first one that is free. -/
def NamedInTurn (taken : List String) (placed : List (Column × String)) : Prop :=
  ∀ before column name after, placed = before ++ (column, name) :: after →
    IsFirstFree (taken ++ before.map Prod.snd) column.name name

theorem namedInTurn_nil (taken : List String) : NamedInTurn taken [] := by
  intro before column name after split
  simp at split

theorem NamedInTurn.cons {taken : List String} {column : Column} {name : String}
    {placed : List (Column × String)} (free : IsFirstFree taken column.name name)
    (others : NamedInTurn (taken ++ [name]) placed) :
    NamedInTurn taken ((column, name) :: placed) := by
  intro before other otherName after split
  cases before with
  | nil =>
      cases split
      simpa using free
  | cons first before =>
      cases split
      simpa using others before other otherName after rfl

namespace Table

variable {left right table : Table}

/-- A column under a free name is put behind the others. -/
theorem WellFormed.withColumn_of_not_mem (wellFormed : table.WellFormed) {column : Column}
    (fits : column.cells.length = table.rowCount) (fresh : column.name ∉ table.names) :
    table.withColumn column = .ok { table with columns := table.columns ++ [column] } := by
  obtain ⟨output, added, rowCount⟩ := wellFormed.exists_withColumn column fits
  have columnsEq : output.columns = table.columns ++ [column] := by
    rw [columns_of_withColumn added, putColumn_of_not_mem fresh]
  rw [added, Except.ok.injEq]
  obtain ⟨columns, rows⟩ := output
  cases columnsEq
  cases rowCount
  rfl

/-- Right columns are put behind the others, under the first free names. -/
theorem WellFormed.exists_addRightColumns {pairs : List (Nat × Option Nat)}
    (wellFormed : table.WellFormed) (rowCount : table.rowCount = pairs.length)
    (columns : List Column) :
    ∃ placed, placed.map Prod.fst = columns ∧ NamedInTurn table.names placed ∧
      addRightColumns pairs table columns =
        .ok { table with columns := table.columns ++ placed.map (joinedColumn pairs) } := by
  induction columns generalizing table with
  | nil => exact ⟨[], rfl, namedInTurn_nil _, by simp [addRightColumns]⟩
  | cons column rest ih =>
      obtain ⟨name, nameEq⟩ : ∃ name,
          name = freeName table.names (table.columns.length + 1) column.name := ⟨_, rfl⟩
      have free : IsFirstFree table.names column.name name := by
        have bound := exists_suffixed_not_mem table.names column.name
        rw [names, List.length_map] at bound
        rw [nameEq]
        exact isFirstFree_freeName bound
      have fresh : name ∉ table.names := free.choose_spec.2.1
      have added : table.withColumn (joinedColumn pairs (column, name)) =
          .ok { table with columns := table.columns ++ [joinedColumn pairs (column, name)] } :=
        wellFormed.withColumn_of_not_mem (by simp [joinedColumn, rowCount]) fresh
      have nextWellFormed := givesWellFormed_withColumn table _ _ added
      obtain ⟨placed, columnsEq, inTurn, done⟩ := ih nextWellFormed rowCount
      refine ⟨(column, name) :: placed, by rw [List.map_cons, columnsEq], ?_, ?_⟩
      · apply NamedInTurn.cons free
        simpa [names, joinedColumn] using inTurn
      · rw [joinedColumn, ← joinedCells_eq] at added
        rw [addRightColumns]
        simp only [← nameEq, added]
        rw [joinedColumn, ← joinedCells_eq] at done
        rw [done, List.map_cons, joinedColumn, ← joinedCells_eq, List.append_assoc]
        rfl

section Joined

variable (right) (keys : List (String × String))

/-- The columns that are no key of the same name on both sides. -/
def unshared : List Column :=
  right.columns.filter fun column => (column.name, column.name) ∉ keys

/-- The right columns that a join adds. -/
def addedColumns : JoinKind → List Column
  | .anti => []
  | _ => right.unshared keys

/-- The cells of a right row in the columns that are added; all empty if there is no such row. -/
def rowBeside (row : Option Nat) : List Cell :=
  (right.unshared keys).map fun column => column.cellBeside row

end Joined

variable {keys : List (String × String)}

theorem any_shared (keys : List (String × String)) (name : String) :
    (keys.any fun key => key.1 == key.2 && key.2 == name) = decide ((name, name) ∈ keys) := by
  rw [Bool.eq_iff_iff, List.any_eq_true, decide_eq_true_iff]
  constructor
  · rintro ⟨⟨first, second⟩, member, same⟩
    obtain ⟨rfl, rfl⟩ : first = second ∧ second = name := by simpa using same
    exact member
  · intro member
    exact ⟨_, member, by simp⟩

/-- A join adds right columns to the left columns in the rows of the nested loops. -/
theorem joinTables_eq {leftKeys rightKeys : List Column}
    (onLeft : left.columnsOf (keys.map Prod.fst) = .ok leftKeys)
    (onRight : right.columnsOf (keys.map Prod.snd) = .ok rightKeys) (kind : JoinKind) :
    joinTables kind keys left right =
      addRightColumns (left.nestedLoop right keys kind)
        (left.takeRows ((left.nestedLoop right keys kind).map Prod.fst))
        (right.addedColumns keys kind) := by
  have added : (right.columns.filter fun column =>
      !keys.any fun key => key.1 == key.2 && key.2 == column.name) = right.unshared keys := by
    apply List.filter_congr
    intro column _
    rw [any_shared, decide_not]
  simp only [joinTables, onLeft, onRight, joinPairs_eq_nestedLoop onLeft onRight]
  cases kind with
  | anti => rfl
  | inner => exact congrArg (addRightColumns _ _) added
  | left => exact congrArg (addRightColumns _ _) added

/-- The table of a join: the left columns in the rows of the nested loops, and behind them the right
columns that it adds, named in turn. -/
theorem WellFormed.exists_joinTables (wellFormed : left.WellFormed)
    (present : ∀ key ∈ keys, left.hasColumn key.1 = true ∧ right.hasColumn key.2 = true)
    (kind : JoinKind) :
    ∃ placed, placed.map Prod.fst = right.addedColumns keys kind ∧ NamedInTurn left.names placed ∧
      joinTables kind keys left right =
        .ok { columns :=
                (left.columns.map fun column =>
                  column.takeRows ((left.nestedLoop right keys kind).map Prod.fst)) ++
                placed.map (joinedColumn (left.nestedLoop right keys kind))
              rowCount := (left.nestedLoop right keys kind).length } := by
  have knownLeft : ∀ name ∈ keys.map Prod.fst, left.hasColumn name = true := by
    rw [List.forall_mem_map]
    exact fun key member => (present key member).1
  have knownRight : ∀ name ∈ keys.map Prod.snd, right.hasColumn name = true := by
    rw [List.forall_mem_map]
    exact fun key member => (present key member).2
  obtain ⟨leftKeys, onLeft⟩ := exists_columnsOf knownLeft
  obtain ⟨rightKeys, onRight⟩ := exists_columnsOf knownRight
  rw [joinTables_eq onLeft onRight]
  obtain ⟨placed, columnsEq, inTurn, done⟩ :=
    (wellFormed.takeRows ((left.nestedLoop right keys kind).map Prod.fst)).exists_addRightColumns
      (List.length_map ..) (right.addedColumns keys kind)
  refine ⟨placed, columnsEq, ?_, ?_⟩
  · simpa [names, Table.takeRows, Function.comp_def] using inTurn
  · rw [done]
    simp [Table.takeRows]

/-! ## Rows of the result -/

/-- The rows of a table, each with its cells in the order of the columns. -/
def rows (table : Table) : List (List Cell) :=
  (List.range table.rowCount).map table.row

theorem rows_joined (left : Table) (pairs : List (Nat × Option Nat))
    (placed : List (Column × String)) :
    rows { columns := (left.columns.map fun column => column.takeRows (pairs.map Prod.fst)) ++
             placed.map (joinedColumn pairs)
           rowCount := pairs.length } =
      pairs.map fun pair =>
        left.row pair.1 ++ (placed.map Prod.fst).map fun column => column.cellBeside pair.2 := by
  apply List.ext_getElem
  · simp [rows]
  · intro index bound _
    have inside : index < pairs.length := by simpa [rows] using bound
    have ofLeft (column : Column) :
        (column.takeRows (pairs.map Prod.fst)).cellAt index = column.cellAt pairs[index].1 := by
      simp [Column.cellAt, Column.takeRows, inside]
    have ofRight (entry : Column × String) :
        (joinedColumn pairs entry).cellAt index = entry.1.cellBeside pairs[index].2 := by
      simp [Column.cellAt, joinedColumn, inside]
    simp only [rows, row, List.getElem_map, List.getElem_range, List.map_append, List.map_map,
      Function.comp_def, ofLeft, ofRight]

end Table

namespace Step

variable {environment : Environment} {depth : Nat} {source : Source} {keys : List (String × String)}
  {left right : Table}

theorem execute_join (resolved : (source.resolve environment depth).result = .ok right)
    (kind : JoinKind) :
    ((Step.join source kind keys).execute environment depth left).result =
      joinTables kind keys left right := by
  simp only [Step.execute, resolved]

/-- No join loses a column or writes over one.  Behind the left columns stand the right columns,
all but the keys of the same name on both sides, in order.  Each has the first of its names with
ever more suffixes that differs from all names placed before it. -/
theorem execute_join_columns (wellFormed : left.WellFormed)
    (resolved : (source.resolve environment depth).result = .ok right)
    (present : ∀ key ∈ keys, left.hasColumn key.1 = true ∧ right.hasColumn key.2 = true)
    {kind : JoinKind} (adds : kind ≠ .anti) :
    ∃ output placed,
      ((Step.join source kind keys).execute environment depth left).result = .ok output ∧
      output.columns =
        (left.columns.map fun column =>
          column.takeRows ((left.nestedLoop right keys kind).map Prod.fst)) ++
        placed.map (joinedColumn (left.nestedLoop right keys kind)) ∧
      output.names = left.names ++ placed.map Prod.snd ∧
      placed.map Prod.fst = right.unshared keys ∧
      (∀ before column name after, placed = before ++ (column, name) :: after →
        IsFirstFree (left.names ++ before.map Prod.snd) column.name name) ∧
      output.names.Nodup := by
  obtain ⟨placed, columnsEq, inTurn, joined⟩ := wellFormed.exists_joinTables present kind
  have done := (execute_join resolved kind).trans joined
  refine ⟨_, placed, done, rfl, ?_, ?_, inTurn, ?_⟩
  · simp [Table.names, Function.comp_def, joinedColumn]
  · rw [columnsEq]
    cases kind with
    | anti => exact absurd rfl adds
    | inner => rfl
    | left => rfl
  · exact (Table.givesWellFormed_joinTables kind keys wellFormed right _ joined).nodup_names

/-- Items sold: both zeros as sizes, an empty key, and a name with its suffix. -/
def soldItems : Table :=
  { columns :=
      [{ name := "item", cells := [.text "pen", .null, .text "ink", .text "pen"] },
       { name := "size", cells := [.float (-0.0), .integer 1, .integer 2, .float 0.0] },
       { name := "note", cells := [.text "a", .text "b", .text "c", .text "d"] },
       { name := "note_right", cells := [.null, .null, .null, .null] }]
    rowCount := 4 }

/-- Items in stock: keys that occur twice, and names that clash with those above. -/
def stockedItems : Table :=
  { columns :=
      [{ name := "item", cells := [.text "pen", .text "ink", .null, .text "pen"] },
       { name := "measure", cells := [.float 0.0, .float 2.0, .integer 1, .float (-0.0)] },
       { name := "note", cells := [.text "w", .text "x", .text "y", .text "z"] },
       { name := "note_right", cells := [.integer 1, .integer 2, .integer 3, .integer 4] }]
    rowCount := 4 }

/-- An environment in which every domain is the stock. -/
def stockEnvironment : Environment :=
  { retrieve := fun _ => .ok stockedItems }

/-- Items are matched by name and size. -/
def itemKeys : List (String × String) :=
  [("item", "item"), ("size", "measure")]

theorem wellFormed_soldItems : soldItems.WellFormed where
  nodup_names := by decide
  length_cells := by simp [soldItems]

theorem resolve_stock :
    ((Source.domain "stock").resolve stockEnvironment 0).result = .ok stockedItems :=
  rfl

theorem itemKeys_present : ∀ key ∈ itemKeys,
    soldItems.hasColumn key.1 = true ∧ stockedItems.hasColumn key.2 = true := by
  decide

/-- The notes of the stock are renamed until their names are free, more than once if need be. -/
theorem execute_join_columns_stock :
    ∃ (output : Table) (placed : List (Column × String)),
      ((Step.join (.domain "stock") .left itemKeys).execute stockEnvironment 0 soldItems).result =
        .ok output ∧
      output.names = ["item", "size", "note", "note_right", "measure", "note_right_right",
        "note_right_right_right"] ∧
      output.names = soldItems.names ++ placed.map Prod.snd ∧
      placed.map Prod.fst = stockedItems.unshared itemKeys ∧ output.names.Nodup := by
  have adds : JoinKind.left ≠ .anti := by decide
  obtain ⟨output, placed, executed, -, names, columns, -, nodup⟩ :=
    execute_join_columns wellFormed_soldItems resolve_stock itemKeys_present adds
  refine ⟨output, placed, executed, ?_, names, columns, nodup⟩
  cases executed
  rfl

/-- The rows of joins are those of two nested loops: the matching pairs for an inner join, with the
left rows that have no match in their places for a left join, and only those for an anti-join.  A
right column that is left out has an equal cell in the left column of its name. -/
theorem execute_join_rows (wellFormed : left.WellFormed)
    (resolved : (source.resolve environment depth).result = .ok right)
    (present : ∀ key ∈ keys, left.hasColumn key.1 = true ∧ right.hasColumn key.2 = true) :
    ∃ output : JoinKind → Table,
      (∀ kind, ((Step.join source kind keys).execute environment depth left).result =
          .ok (output kind) ∧
        ∃ added, (output kind).names = left.names ++ added ∧
          added.length = (right.addedColumns keys kind).length) ∧
      (output .inner).rows = ((List.range left.rowCount).flatMap fun leftRow =>
        (left.matchingRows right keys leftRow).map fun rightRow =>
          left.row leftRow ++ right.rowBeside keys (some rightRow)) ∧
      (output .left).rows = ((List.range left.rowCount).flatMap fun leftRow =>
        if left.matchingRows right keys leftRow = [] then
          [left.row leftRow ++ right.rowBeside keys none]
        else
          (left.matchingRows right keys leftRow).map fun rightRow =>
            left.row leftRow ++ right.rowBeside keys (some rightRow)) ∧
      (output .anti).rows = (((List.range left.rowCount).filter fun leftRow =>
        left.matchingRows right keys leftRow = []).map left.row) ∧
      (∀ leftRow, ∀ rightRow ∈ left.matchingRows right keys leftRow, ∀ name, (name, name) ∈ keys →
        (left.cellAt leftRow name).Equals (right.cellAt rightRow name)) ∧
      (output .left).rowCount = (output .inner).rowCount + (output .anti).rowCount := by
  choose placed columnsEq inTurn joined using wellFormed.exists_joinTables present
  refine ⟨_, fun kind => ⟨(execute_join resolved kind).trans (joined kind), ?_⟩, ?_, ?_, ?_, ?_, ?_⟩
  · refine ⟨(placed kind).map Prod.snd, ?_, ?_⟩
    · simp [Table.names, Function.comp_def, joinedColumn]
    · rw [← columnsEq, List.length_map, List.length_map]
  · rw [Table.rows_joined, columnsEq]
    simp only [Table.nestedLoop, List.map_flatMap, List.map_map]
    rfl
  · rw [Table.rows_joined, columnsEq]
    simp only [Table.nestedLoop, List.map_flatMap]
    congr 1
    funext leftRow
    split
    · rfl
    · rw [List.map_map]
      rfl
  · rw [Table.rows_joined, columnsEq]
    simp only [Table.nestedLoop, List.map_map, Table.addedColumns, List.map_nil, List.append_nil]
    rfl
  · intro leftRow rightRow found name shared
    rw [Table.matchingRows, List.mem_filter, decide_eq_true_iff] at found
    exact (found.2 _ shared).2.2
  · exact Table.length_nestedLoop_left left right keys

/-- Two of the sold items match two rows of the stock each, and two match none. -/
theorem execute_join_rows_stock :
    ∃ output : JoinKind → Table,
      (∀ kind,
        ((Step.join (.domain "stock") kind itemKeys).execute stockEnvironment 0 soldItems).result =
          .ok (output kind)) ∧
      (output .inner).rows = ([(0, 0), (0, 3), (3, 0), (3, 3)].map fun pair =>
        soldItems.row pair.1 ++ stockedItems.rowBeside itemKeys (some pair.2)) ∧
      (output .left).rows =
        ([(0, some 0), (0, some 3), (1, none), (2, none), (3, some 0), (3, some 3)].map fun pair =>
          soldItems.row pair.1 ++ stockedItems.rowBeside itemKeys pair.2) ∧
      (output .anti).rows = [1, 2].map soldItems.row ∧
      (output .left).rowCount = (output .inner).rowCount + (output .anti).rowCount := by
  obtain ⟨output, executed, inner, whole, anti, -, counts⟩ :=
    execute_join_rows wellFormed_soldItems resolve_stock itemKeys_present
  exact ⟨output, fun kind => (executed kind).1, inner, whole, anti, counts⟩

end Step

end TableFlow
