import TableFlow.Proofs.Cell.Equality
import TableFlow.Proofs.Table.Groups

/-!
# Rows are grouped by equality of their keys

Rows go into groups one after the other: into the group of their key, or into a new group at the
end.  What holds after every row is that each group has all rows of its key met so far, in order,
that no two groups have one key, and that the groups stand in the order of their first rows.  At
the end the groups are the classes of the rows under equality of their cells in the key columns.

Main statement: `Table.groupRows_classes`.
-/

namespace TableFlow

/-- Keys are the same exactly if their cells have the same representatives. -/
theorem sameKey_iff {left right : List Cell} :
    sameKey left right = true ↔ left.map Cell.representative = right.map Cell.representative := by
  induction left generalizing right with
  | nil => cases right <;> simp [sameKey]
  | cons cell cells ih =>
      cases right <;> simp [sameKey, ih, Cell.same_iff_representative]

theorem sameKey_comm (left right : List Cell) : sameKey left right = sameKey right left := by
  rw [Bool.eq_iff_iff, sameKey_iff, sameKey_iff, eq_comm]

/-- Keys of the same length are the same exactly if their cells are equal one by one. -/
theorem sameKey_map_iff {α : Type} {items : List α} {left right : α → Cell} :
    sameKey (items.map left) (items.map right) = true ↔
      ∀ item ∈ items, (left item).Equals (right item) := by
  simp [sameKey_iff, ← Cell.same_iff_equals, Cell.same_iff_representative]

/-- Equal keys are hashed alike. -/
theorem keyHashParts_eq_of_sameKey {left right : List Cell} (same : sameKey left right = true) :
    keyHashParts left = keyHashParts right := by
  have lengthsAndCells : left.length = right.length ∧
      left.flatMap Cell.hashParts = right.flatMap Cell.hashParts := by
    induction left generalizing right with
    | nil => cases right <;> simp_all [sameKey]
    | cons cell cells ih =>
        cases right with
        | nil => cases same
        | cons other others =>
            rw [sameKey, Bool.and_eq_true] at same
            obtain ⟨lengths, parts⟩ := ih same.2
            simp [Cell.hashParts_eq_iff.2 same.1, lengths, parts]
  rw [keyHashParts, keyHashParts, lengthsAndCells.1, lengthsAndCells.2]

/-- A key that is looked for among the entries of its hash is found as if it were looked for among
all, whatever is made of the parts. -/
theorem find?_sameKey_of_hash {α β : Type} [DecidableEq β] (hash : List Cell.HashPart → β)
    (keyOf : α → List Cell) (key : List Cell) (entries : List α) :
    (entries.filter fun entry => hash (keyHashParts (keyOf entry)) = hash (keyHashParts key)).find?
        (fun entry => sameKey (keyOf entry) key) =
      entries.find? fun entry => sameKey (keyOf entry) key := by
  rw [List.find?_filter]
  congr 1
  funext entry
  cases same : sameKey (keyOf entry) key with
  | false => simp
  | true => simp [keyHashParts_eq_of_sameKey same]

/-- A row goes into the group of its key if there is one, and into a new group otherwise. -/
theorem addToGroup_cases (key : List Cell) (row : Nat) (groups : List (List Cell × List Nat)) :
    ((∀ group ∈ groups, sameKey group.1 key = false) ∧
        addToGroup key row groups = groups ++ [(key, [row])]) ∨
      ∃ before other rows after, groups = before ++ (other, rows) :: after ∧
        sameKey other key = true ∧
        addToGroup key row groups = before ++ (other, rows ++ [row]) :: after := by
  induction groups with
  | nil => exact .inl ⟨by simp, rfl⟩
  | cons group rest ih =>
      obtain ⟨other, rows⟩ := group
      rw [addToGroup]
      split
      · rename_i same
        exact .inr ⟨[], other, rows, rest, rfl, same, rfl⟩
      · rename_i different
        rcases ih with ⟨none, added⟩ | ⟨before, found, inside, after, rfl, same, added⟩
        · refine .inl ⟨?_, by rw [added, List.cons_append]⟩
          exact List.forall_mem_cons.2 ⟨Bool.not_eq_true _ ▸ different, none⟩
        · exact .inr ⟨(other, rows) :: before, found, inside, after, rfl, same, by rw [added]; rfl⟩

/-- Groups of some rows by their keys. -/
structure Grouped (columns : List Column) (rows : List Nat)
    (groups : List (List Cell × List Nat)) : Prop where
  /-- A group has the rows of its key, in order. -/
  rows_eq : ∀ group ∈ groups,
    group.2 = rows.filter fun row => sameKey group.1 (keyAt columns row)
  nonempty : ∀ group ∈ groups, group.2 ≠ []
  distinct : groups.Pairwise fun earlier later => sameKey earlier.1 later.1 = false
  covers : ∀ row ∈ rows, ∃ group ∈ groups, sameKey group.1 (keyAt columns row) = true
  /-- The first rows of the groups stand in the order of the rows. -/
  firsts : (groups.filterMap fun group => group.2.head?).Sublist rows

variable {columns : List Column} {rows : List Nat} {groups : List (List Cell × List Nat)}

theorem grouped_nil : Grouped columns [] [] where
  rows_eq := by simp
  nonempty := by simp
  distinct := .nil
  covers := by simp
  firsts := by simp

/-- A row whose key no group has starts a group. -/
theorem Grouped.newGroup (grouped : Grouped columns rows groups) {row : Nat}
    (new : ∀ group ∈ groups, sameKey group.1 (keyAt columns row) = false) :
    Grouped columns (rows ++ [row]) (groups ++ [(keyAt columns row, [row])]) where
  rows_eq := by
    rw [List.forall_mem_append, List.forall_mem_singleton]
    constructor
    · intro group member
      rw [List.filter_append, ← grouped.rows_eq group member]
      simp [new group member]
    · -- A row of the same key would have a group, which would be one of the same key.
      have none : ∀ other ∈ rows, sameKey (keyAt columns row) (keyAt columns other) = false := by
        intro other member
        obtain ⟨group, inside, same⟩ := grouped.covers other member
        have different := new group inside
        rw [← Bool.not_eq_true, sameKey_iff] at different ⊢
        rw [sameKey_iff] at same
        grind
      rw [List.filter_append, List.filter_eq_nil_iff.2 (by simpa using none)]
      simp [sameKey_iff]
  nonempty := by
    rw [List.forall_mem_append]
    exact ⟨grouped.nonempty, by simp⟩
  distinct := by
    rw [List.pairwise_append]
    exact ⟨grouped.distinct, by simp, by simpa using new⟩
  covers := by
    rw [List.forall_mem_append]
    constructor
    · intro other member
      obtain ⟨group, inside, same⟩ := grouped.covers other member
      exact ⟨group, List.mem_append_left _ inside, same⟩
    · simp [sameKey_iff]
  firsts := by
    rw [List.filterMap_append]
    exact grouped.firsts.append (List.Sublist.refl [row])

/-- A row whose key a group has goes to the end of it. -/
theorem Grouped.oldGroup {before after : List (List Cell × List Nat)} {key : List Cell}
    {inside : List Nat} (grouped : Grouped columns rows (before ++ (key, inside) :: after))
    {row : Nat}
    (old : sameKey key (keyAt columns row) = true) :
    Grouped columns (rows ++ [row]) (before ++ (key, inside ++ [row]) :: after) where
  rows_eq := by
    have distinct := grouped.distinct
    rw [List.pairwise_append, List.pairwise_cons] at distinct
    -- No other group has the key, since no two groups have one key.
    have others : ∀ group, group ∈ before ∨ group ∈ after →
        sameKey group.1 (keyAt columns row) = false := by
      rintro group (earlier | later)
      · have different := distinct.2.2 group earlier _ List.mem_cons_self
        rw [← Bool.not_eq_true, sameKey_iff] at different ⊢
        rwa [← sameKey_iff.1 old]
      · have different := distinct.2.1.1 group later
        rw [← Bool.not_eq_true, sameKey_iff] at different ⊢
        rw [← sameKey_iff.1 old]
        exact Ne.symm different
    have rowsEq := grouped.rows_eq
    simp only [List.forall_mem_append, List.forall_mem_cons] at rowsEq ⊢
    refine ⟨?_, ?_, ?_⟩
    · intro group member
      rw [List.filter_append, ← rowsEq.1 group member]
      simp [others group (.inl member)]
    · rw [List.filter_append, ← rowsEq.2.1]
      simp [old]
    · intro group member
      rw [List.filter_append, ← rowsEq.2.2 group member]
      simp [others group (.inr member)]
  nonempty := by
    have nonempty := grouped.nonempty
    simp only [List.forall_mem_append, List.forall_mem_cons] at nonempty ⊢
    exact ⟨nonempty.1, by simp, nonempty.2.2⟩
  distinct := by
    have distinct := grouped.distinct
    rw [List.pairwise_append, List.pairwise_cons] at distinct ⊢
    simpa using distinct
  covers := by
    -- The keys of the groups are what they were.
    have covers := grouped.covers
    simp only [List.mem_append, List.mem_cons, or_and_right, exists_or, exists_eq_left] at covers
    rw [List.forall_mem_append, List.forall_mem_singleton]
    simp only [List.mem_append, List.mem_cons, or_and_right, exists_or, exists_eq_left]
    exact ⟨covers, .inr (.inl old)⟩
  firsts := by
    have nonempty : inside ≠ [] := grouped.nonempty (key, inside) (by simp)
    have firsts := grouped.firsts
    rw [List.filterMap_append, List.filterMap_cons] at firsts ⊢
    rw [List.head?_append_of_ne_nil _ nonempty]
    exact firsts.trans (List.sublist_append_left rows [row])

/-- One more row keeps the groups. -/
theorem Grouped.addToGroup (grouped : Grouped columns rows groups) (row : Nat) :
    Grouped columns (rows ++ [row]) (addToGroup (keyAt columns row) row groups) := by
  rcases addToGroup_cases (keyAt columns row) row groups with
    ⟨none, added⟩ | ⟨before, other, inside, after, rfl, same, added⟩
  · rw [added]
    exact grouped.newGroup none
  · rw [added]
    exact grouped.oldGroup same

/-- Rows that go into groups one after the other. -/
theorem Grouped.foldl_addToGroup (grouped : Grouped columns rows groups) (later : List Nat) :
    Grouped columns (rows ++ later)
      (later.foldl (fun groups row => TableFlow.addToGroup (keyAt columns row) row groups)
        groups) := by
  induction later generalizing rows groups with
  | nil => rwa [List.append_nil]
  | cons row rest ih =>
      rw [List.append_cons]
      exact ih (grouped.addToGroup row)

theorem grouped_groupBy (columns : List Column) (rows : List Nat) :
    Grouped columns rows (groupBy columns rows) :=
  grouped_nil.foldl_addToGroup rows

/-- Without columns every row has the same key. -/
theorem groupBy_nil (rows : List Nat) :
    groupBy [] rows = if rows = [] then [] else [([], rows)] := by
  have one (before rest : List Nat) :
      rest.foldl (fun groups row => addToGroup (keyAt [] row) row groups) [([], before)] =
        [([], before ++ rest)] := by
    induction rest generalizing before with
    | nil => simp
    | cons row rest ih =>
        have added : addToGroup (keyAt [] row) row [([], before)] = [([], before ++ [row])] := rfl
        rw [List.foldl_cons, added, ih, List.append_assoc]
        rfl
  cases rows with
  | nil => rfl
  | cons row rest => exact one [row] rest

/-! ## Groups as classes -/

theorem Grouped.mem_iff (grouped : Grouped columns rows groups) {group : List Cell × List Nat}
    (member : group ∈ groups) {row : Nat} :
    row ∈ group.2 ↔ row ∈ rows ∧ sameKey group.1 (keyAt columns row) = true := by
  rw [grouped.rows_eq group member, List.mem_filter]

/-- Two rows are in one group exactly if their keys are the same. -/
theorem Grouped.together_iff (grouped : Grouped columns rows groups) {first second : Nat}
    (firstIn : first ∈ rows) (secondIn : second ∈ rows) :
    (∃ group ∈ groups, first ∈ group.2 ∧ second ∈ group.2) ↔
      sameKey (keyAt columns first) (keyAt columns second) = true := by
  constructor
  · rintro ⟨group, member, firstHere, secondHere⟩
    have ofFirst := sameKey_iff.1 ((grouped.mem_iff member).1 firstHere).2
    have ofSecond := sameKey_iff.1 ((grouped.mem_iff member).1 secondHere).2
    rw [sameKey_iff, ← ofFirst, ofSecond]
  · intro same
    obtain ⟨group, member, ofFirst⟩ := grouped.covers first firstIn
    have ofSecond : sameKey group.1 (keyAt columns second) = true := by
      rw [sameKey_iff] at ofFirst same ⊢
      rw [ofFirst, same]
    exact ⟨group, member, (grouped.mem_iff member).2 ⟨firstIn, ofFirst⟩,
      (grouped.mem_iff member).2 ⟨secondIn, ofSecond⟩⟩

/-- Groups of one key stand in one place. -/
theorem Grouped.index_eq (grouped : Grouped columns rows groups) {left right : Nat}
    (leftBound : left < groups.length) (rightBound : right < groups.length)
    (same : sameKey groups[left].1 groups[right].1 = true) : left = right := by
  have distinct := List.pairwise_iff_getElem.1 grouped.distinct
  rcases Nat.lt_trichotomy left right with before | equal | after
  · have different := distinct left right leftBound rightBound before
    rw [same] at different
    cases different
  · exact equal
  · have different := distinct right left rightBound leftBound after
    rw [← Bool.not_eq_true, sameKey_iff] at different
    exact absurd (sameKey_iff.1 same).symm different

/-- Every row is in exactly one group. -/
theorem Grouped.existsUnique (grouped : Grouped columns rows groups) {row : Nat}
    (inside : row ∈ rows) :
    ∃! index : Nat, ∃ group, groups[index]? = some group ∧ row ∈ group.2 := by
  obtain ⟨group, member, same⟩ := grouped.covers row inside
  obtain ⟨index, bound, rfl⟩ := List.getElem_of_mem member
  refine ⟨index, ⟨_, List.getElem?_eq_getElem bound, (grouped.mem_iff member).2 ⟨inside, same⟩⟩, ?_⟩
  rintro other ⟨found, at_other, here⟩
  obtain ⟨otherBound, rfl⟩ := List.getElem?_eq_some_iff.1 at_other
  have otherSame := ((grouped.mem_iff (List.getElem_mem otherBound)).1 here).2
  apply grouped.index_eq otherBound bound
  rw [sameKey_iff] at same otherSame ⊢
  rw [otherSame, same]

/-- Groups of increasing rows stand in the order of their first rows. -/
theorem Grouped.ordered (grouped : Grouped columns rows groups)
    (increasing : rows.Pairwise (· < ·)) :
    groups.Pairwise fun earlier later => earlier.2.headD 0 < later.2.headD 0 := by
  have firsts := List.pairwise_filterMap.1 (increasing.sublist grouped.firsts)
  have head {group : List Cell × List Nat} (member : group ∈ groups) :
      group.2.head? = some (group.2.headD 0) := by
    cases shape : group.2 with
    | nil => exact absurd shape (grouped.nonempty group member)
    | cons first rest => rfl
  apply firsts.imp_of_mem
  intro earlier later earlierIn laterIn less
  exact less _ (head earlierIn) _ (head laterIn)

namespace Table

variable {table : Table} {keys names : List String}

theorem exists_column {name : String} (known : table.hasColumn name = true) :
    ∃ column, table.column name = .ok column := by
  simp only [column_eq_ok_iff]
  rw [← Option.isSome_iff_exists, column?, List.find?_isSome]
  rwa [hasColumn, List.any_eq_true] at known

theorem column_of_missing {name : String} (missing : table.hasColumn name = false) :
    table.column name = .error (.missingColumn name) := by
  have none : table.column? name = none := by
    rw [column?, List.find?_eq_none]
    simpa [hasColumn] using missing
  rw [column, none]

/-- The columns of some names are there if every name is known. -/
theorem exists_columnsOf (known : ∀ name ∈ names, table.hasColumn name = true) :
    ∃ columns, table.columnsOf names = .ok columns := by
  induction names with
  | nil => exact ⟨[], columnsOf_nil⟩
  | cons name rest ih =>
      rw [List.forall_mem_cons] at known
      obtain ⟨column, found⟩ := exists_column known.1
      obtain ⟨columns, others⟩ := ih known.2
      refine ⟨column :: columns, ?_⟩
      rw [columnsOf, List.mapM_cons, found, ← columnsOf, others]
      rfl

/-- The first name that is not known is reported. -/
theorem columnsOf_of_missing {before after : List String} {name : String}
    (known : ∀ earlier ∈ before, table.hasColumn earlier = true)
    (missing : table.hasColumn name = false) :
    table.columnsOf (before ++ name :: after) = .error (.missingColumn name) := by
  induction before with
  | nil =>
      rw [List.nil_append, columnsOf, List.mapM_cons, column_of_missing missing]
      rfl
  | cons earlier rest ih =>
      rw [List.forall_mem_cons] at known
      obtain ⟨column, found⟩ := exists_column known.1
      rw [List.cons_append, columnsOf, List.mapM_cons, found, ← columnsOf, ih known.2]
      rfl

/-- The cells of a row in some columns are its cells under their names. -/
theorem keyAt_of_columnsOf {columns : List Column} (found : table.columnsOf names = .ok columns)
    (row : Nat) : keyAt columns row = names.map (table.cellAt row) := by
  obtain ⟨column, each, rfl⟩ := exists_of_mapM_eq_ok (Column.mk "" []) found
  rw [keyAt, List.map_map]
  apply List.map_congr_left
  intro name member
  exact (cellAt_eq_of_column (each name member) row).symm

/-- Without key columns all rows have one key, so the groups need no case of their own. -/
theorem groupRows_of_columnsOf {columns : List Column}
    (found : table.columnsOf keys = .ok columns) :
    table.groupRows keys = .ok ((groupBy columns (List.range table.rowCount)).map Prod.snd) := by
  rw [groupRows, found]
  cases columns with
  | cons first rest => rfl
  | nil =>
      simp only [groupBy_nil]
      split <;> simp_all

/-- Groups of the rows of a table: classes of rows with equal cells under some names, in the order
of their first rows. -/
structure IsGroupedBy (table : Table) (keys : List String) (groups : List (List Nat)) : Prop where
  nonempty : ∀ group ∈ groups, group ≠ []
  increasing : ∀ group ∈ groups, group.Pairwise (· < ·)
  ordered : groups.Pairwise fun earlier later => earlier.headD 0 < later.headD 0
  bounded : ∀ group ∈ groups, ∀ row ∈ group, row < table.rowCount
  unique : ∀ row < table.rowCount,
    ∃! index : Nat, ∃ group, groups[index]? = some group ∧ row ∈ group
  together_iff : ∀ first < table.rowCount, ∀ second < table.rowCount,
    (∃ group ∈ groups, first ∈ group ∧ second ∈ group) ↔
      ∀ name ∈ keys, (table.cellAt first name).Equals (table.cellAt second name)

/-- The groups by the columns of the keys are groups by the keys. -/
theorem isGroupedBy_groupBy {columns : List Column} (found : table.columnsOf keys = .ok columns) :
    table.IsGroupedBy keys ((groupBy columns (List.range table.rowCount)).map Prod.snd) where
  nonempty := by
    rw [List.forall_mem_map]
    exact (grouped_groupBy columns _).nonempty
  increasing := by
    rw [List.forall_mem_map]
    intro group member
    rw [(grouped_groupBy columns _).rows_eq group member]
    exact List.pairwise_lt_range.filter _
  ordered := by
    rw [List.pairwise_map]
    exact (grouped_groupBy columns _).ordered List.pairwise_lt_range
  bounded := by
    rw [List.forall_mem_map]
    intro group member row here
    exact List.mem_range.1 (((grouped_groupBy columns _).mem_iff member).1 here).1
  unique := by
    intro row bound
    have unique := (grouped_groupBy columns _).existsUnique (List.mem_range.2 bound)
    simpa only [List.getElem?_map, Option.map_eq_some_iff, exists_exists_and_eq_and] using unique
  together_iff := by
    intro first firstBound second secondBound
    have together := (grouped_groupBy columns (List.range table.rowCount)).together_iff
      (List.mem_range.2 firstBound) (List.mem_range.2 secondBound)
    rw [keyAt_of_columnsOf found, keyAt_of_columnsOf found, sameKey_map_iff] at together
    simpa only [List.mem_map, exists_exists_and_eq_and] using together

/-- Rows are grouped by equality of their cells under the keys.  It fails for a missing key only,
and then the first missing one is named. -/
theorem groupRows_classes (table : Table) (keys : List String) :
    ((∀ name ∈ keys, table.hasColumn name = true) →
      ∃ groups, table.groupRows keys = .ok groups ∧ table.IsGroupedBy keys groups) ∧
    (∀ before name after, keys = before ++ name :: after →
      (∀ earlier ∈ before, table.hasColumn earlier = true) → table.hasColumn name = false →
      table.groupRows keys = .error (.missingColumn name)) := by
  constructor
  · intro known
    obtain ⟨columns, found⟩ := exists_columnsOf known
    exact ⟨_, groupRows_of_columnsOf found, isGroupedBy_groupBy found⟩
  · rintro before name after rfl known missing
    rw [groupRows, columnsOf_of_missing known missing]

/-- Keys of all sorts: both zeros, floats that are no number, empty cells, and one as an integer
and as a float. -/
def mixedKeys : Table :=
  { columns :=
      [{ name := "key"
         cells := [.float (-0.0), .float 0.0, .float (0.0 / 0.0), .null, .float (-(0.0 / 0.0)),
           .integer 1, .float 1.0, .null] }]
    rowCount := 8 }

/-- Both zeros share a group, as do all floats that are no number, while one is not the same key as
an integer and as a float. -/
theorem groupRows_classes_mixedKeys :
    (∀ name ∈ ["key"], mixedKeys.hasColumn name = true) ∧
      mixedKeys.groupRows ["key"] = .ok [[0, 1], [2, 4], [3, 7], [5], [6]] ∧
      mixedKeys.IsGroupedBy ["key"] [[0, 1], [2, 4], [3, 7], [5], [6]] ∧
      mixedKeys.groupRows ["key", "team"] = .error (.missingColumn "team") := by
  have known : ∀ name ∈ ["key"], mixedKeys.hasColumn name = true := by decide
  have grouped : mixedKeys.groupRows ["key"] = .ok [[0, 1], [2, 4], [3, 7], [5], [6]] := rfl
  obtain ⟨groups, found, classes⟩ := (groupRows_classes mixedKeys ["key"]).1 known
  rw [grouped] at found
  cases found
  exact ⟨known, grouped, classes,
    (groupRows_classes mixedKeys ["key", "team"]).2 ["key"] "team" [] rfl known (by decide)⟩

end Table

end TableFlow
