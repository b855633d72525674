import TableFlow.Proofs.Table.Grouping

/-!
# Groups by fewer and by more keys

Rows agree on some names if their cells under these names are equal.  A group has the rows that
agree with any one of its rows on the keys.  With more keys fewer rows agree, so every group by some
keys is made up of groups by these and further keys: its rows are theirs, and what is summed over
its rows is summed group by group.

Main statements: `Table.group_eq_filter` and `Table.sum_eq_sum_finer`.
-/

namespace TableFlow

namespace Table

/-- Two rows of a table have equal cells under some names. -/
def AgreeOn (table : Table) (names : List String) (first second : Nat) : Prop :=
  ∀ name ∈ names, (table.cellAt first name).Equals (table.cellAt second name)

instance (table : Table) (names : List String) (first second : Nat) :
    Decidable (table.AgreeOn names first second) :=
  inferInstanceAs (Decidable (∀ name ∈ names, _))

variable {table : Table} {names more keys : List String} {first second third : Nat}

theorem AgreeOn.symm (agree : table.AgreeOn names first second) :
    table.AgreeOn names second first := by
  intro name member
  exact (agree name member).symm

theorem AgreeOn.trans (before : table.AgreeOn names first second)
    (after : table.AgreeOn names second third) : table.AgreeOn names first third := by
  intro name member
  exact (before name member).trans (after name member)

theorem agreeOn_append_iff :
    table.AgreeOn (names ++ more) first second ↔
      table.AgreeOn names first second ∧ table.AgreeOn more first second :=
  List.forall_mem_append

variable {groups : List (List Nat)} {group : List Nat} {row : Nat}

theorem exists_of_groupRows (grouped : table.groupRows keys = .ok groups) :
    ∃ columns, table.columnsOf keys = .ok columns ∧
      groups = (groupBy columns (List.range table.rowCount)).map Prod.snd := by
  cases found : table.columnsOf keys with
  | error error =>
      rw [groupRows, found] at grouped
      cases grouped
  | ok columns =>
      rw [groupRows_of_columnsOf found, Except.ok.injEq] at grouped
      exact ⟨columns, rfl, grouped.symm⟩

/-- Rows cannot be grouped by a missing key. -/
theorem exists_of_groupRows_error {error : StepError}
    (failed : table.groupRows keys = .error error) :
    ∃ name ∈ keys, error = .missingColumn name := by
  cases found : table.columnsOf keys with
  | ok columns =>
      rw [groupRows_of_columnsOf found] at failed
      cases failed
  | error other =>
      rw [groupRows, found] at failed
      cases failed
      obtain ⟨name, member, missing⟩ := exists_of_mapM_eq_error found
      refine ⟨name, member, ?_⟩
      rw [column] at missing
      split at missing
      · cases missing
      · exact (Except.error.inj missing).symm

theorem isGroupedBy_of_groupRows (grouped : table.groupRows keys = .ok groups) :
    table.IsGroupedBy keys groups := by
  obtain ⟨columns, found, rfl⟩ := exists_of_groupRows grouped
  exact isGroupedBy_groupBy found

/-- A group has the rows that agree with any one of its rows. -/
theorem group_eq_filter (grouped : table.groupRows keys = .ok groups) (member : group ∈ groups)
    (inside : row ∈ group) :
    group = (List.range table.rowCount).filter fun other => table.AgreeOn keys row other := by
  obtain ⟨columns, found, rfl⟩ := exists_of_groupRows grouped
  obtain ⟨keyed, inGroups, rfl⟩ := List.mem_map.1 member
  have byKey := grouped_groupBy columns (List.range table.rowCount)
  have ofRow := sameKey_iff.1 ((byKey.mem_iff inGroups).1 inside).2
  rw [byKey.rows_eq keyed inGroups]
  apply List.filter_congr
  intro other _
  rw [Bool.eq_iff_iff, sameKey_iff, ofRow, ← sameKey_iff, keyAt_of_columnsOf found,
    keyAt_of_columnsOf found, sameKey_map_iff, decide_eq_true_eq]
  rfl

theorem mem_group_iff (grouped : table.groupRows keys = .ok groups) (member : group ∈ groups)
    (inside : row ∈ group) {other : Nat} :
    other ∈ group ↔ other < table.rowCount ∧ table.AgreeOn keys row other := by
  rw [group_eq_filter grouped member inside]
  simp

theorem headD_mem_group (grouped : table.groupRows keys = .ok groups) (member : group ∈ groups) :
    group.headD 0 ∈ group := by
  have occupied := (isGroupedBy_of_groupRows grouped).nonempty group member
  cases group with
  | nil => exact absurd rfl occupied
  | cons first rest => exact List.mem_cons_self

/-- Groups with rows that agree stand in one place. -/
theorem index_eq_of_agreeOn (grouped : table.groupRows keys = .ok groups) {left right : Nat}
    {leftGroup rightGroup : List Nat} (atLeft : groups[left]? = some leftGroup)
    (atRight : groups[right]? = some rightGroup) (firstIn : first ∈ leftGroup)
    (secondIn : second ∈ rightGroup) (agree : table.AgreeOn keys first second) : left = right := by
  have classes := isGroupedBy_of_groupRows grouped
  have bound := classes.bounded rightGroup (List.mem_of_getElem? atRight) second secondIn
  have secondInLeft : second ∈ leftGroup :=
    (mem_group_iff grouped (List.mem_of_getElem? atLeft) firstIn).2 ⟨bound, agree⟩
  exact (classes.unique second bound).unique ⟨leftGroup, atLeft, secondInLeft⟩
    ⟨rightGroup, atRight, secondIn⟩

/-- A row is in the group of one place. -/
theorem exists_group_of_lt (grouped : table.groupRows keys = .ok groups)
    (bound : row < table.rowCount) :
    ∃ (index : Nat) (group : List Nat), groups[index]? = some group ∧ row ∈ group := by
  obtain ⟨index, found, -⟩ := (isGroupedBy_of_groupRows grouped).unique row bound
  exact ⟨index, found⟩

theorem nodup_of_groupRows (grouped : table.groupRows keys = .ok groups) : groups.Nodup := by
  have partition := isPartition_groupRows grouped
  have apart := (List.nodup_flatten.1 (partition.nodup_flatten List.nodup_range)).2
  apply apart.imp_of_mem
  rintro first second member - disjoint rfl
  obtain ⟨row, inside⟩ := List.exists_mem_of_ne_nil first (partition.nonempty first member)
  exact disjoint inside inside

/-- The rows of a group that agree on one more name make up a group by one more key. -/
theorem filter_group_eq (grouped : table.groupRows keys = .ok groups) (member : group ∈ groups)
    (inside : row ∈ group) {finer : List (List Nat)}
    (groupedFiner : table.groupRows (keys ++ more) = .ok finer) {part : List Nat}
    (partOf : part ∈ finer) (insidePart : row ∈ part) :
    (group.filter fun other => table.AgreeOn more row other) = part := by
  rw [group_eq_filter grouped member inside, group_eq_filter groupedFiner partOf insidePart,
    List.filter_filter]
  apply List.filter_congr
  intro other _
  rw [Bool.eq_iff_iff, Bool.and_eq_true, decide_eq_true_eq, decide_eq_true_eq, decide_eq_true_eq,
    agreeOn_append_iff, and_comm]

end Table

/-- Where a test has one answer in each group, a sum over the rows that pass it goes group by
group. -/
theorem sum_filter_flatten {groups : List (List Nat)} {passes : Nat → Bool}
    (constant : ∀ group ∈ groups, ∀ row ∈ group, passes row = passes (group.headD 0))
    (amount : Nat → Int) :
    ((groups.flatten.filter passes).map amount).sum =
      ((groups.filter fun group => passes (group.headD 0)).map fun group =>
        (group.map amount).sum).sum := by
  induction groups with
  | nil => rfl
  | cons group rest ih =>
      rw [List.forall_mem_cons] at constant
      rw [List.flatten_cons, List.filter_append, List.map_append, List.sum_append, ih constant.2,
        List.filter_cons]
      cases first : passes (group.headD 0) with
      | true =>
          have all : group.filter passes = group :=
            List.filter_eq_self.2 fun row member => (constant.1 row member).trans first
          rw [all, if_pos rfl, List.map_cons, List.sum_cons]
      | false =>
          have none : group.filter passes = [] := by
            rw [List.filter_eq_nil_iff]
            intro row member
            rw [constant.1 row member, first]
            exact Bool.false_ne_true
          simp [none]

/-- What is summed over the rows that agree with a row on some names is summed over the groups by
these and further names that agree with it. -/
theorem Table.sum_eq_sum_finer {table : Table} {keys more : List String} {groups : List (List Nat)}
    (grouped : table.groupRows (keys ++ more) = .ok groups) (amount : Nat → Int) (row : Nat) :
    (((List.range table.rowCount).filter fun other => table.AgreeOn keys row other).map
      amount).sum =
      ((groups.filter fun group => table.AgreeOn keys row (group.headD 0)).map fun group =>
        (group.map amount).sum).sum := by
  have constant : ∀ group ∈ groups, ∀ other ∈ group,
      decide (table.AgreeOn keys row other) = decide (table.AgreeOn keys row (group.headD 0)) := by
    intro group member other inside
    have agree := ((mem_group_iff grouped member (headD_mem_group grouped member)).1 inside).2
    have onKeys := (agreeOn_append_iff.1 agree).1
    rw [decide_eq_decide]
    exact ⟨fun before => before.trans onKeys.symm, fun before => before.trans onKeys⟩
  rw [← sum_filter_flatten constant]
  exact (((isPartition_groupRows grouped).perm.filter _).map amount).sum_eq.symm

end TableFlow
