import TableFlow.Proofs.Table.Refinement
import TableFlow.Proofs.Transform.Functions
import TableFlow.Proofs.Transform.Placement

/-!
# Running sums are exact

A running sum goes on from cell to cell of a group: an integer adds to it and shows it, an empty
cell leaves it alone and stays empty.  It fails where it leaves the range of the words, so what it
shows is the exact sum of the integers so far.  The groups lie scattered over the table, but every
row finds what its own group placed there.

Main statement: `RunningSum.apply_sums`.
-/

namespace TableFlow

open TableFlow.Number

namespace RunningSum

/-- The running sums of integers and empty cells that go on from an integer. -/
inductive RunsFrom : Int → List Cell → List Cell → Prop where
  | nil {start : Int} : RunsFrom start [] []
  | null {start : Int} {cells sums : List Cell} (rest : RunsFrom start cells sums) :
      RunsFrom start (.null :: cells) (.null :: sums)
  | integer {start : Int} {value sum : Int64} {cells sums : List Cell}
      (exact : sum.toInt = start + value.toInt) (rest : RunsFrom sum.toInt cells sums) :
      RunsFrom start (.integer value :: cells) (.integer sum :: sums)

/-- Running sums that go on from a word are there, or they leave the range of the words and fail. -/
theorem sumInts_cases (name : String) {cells : List Cell}
    (integers : ∀ cell ∈ cells, cell.OfKind .integer) {start : Int} (isWord : IsWord start) :
    (¬ Cell.SumOverflows start cells ∧
      ∃ sums, sumInts name start cells = .ok sums ∧ RunsFrom start cells sums) ∨
    (Cell.SumOverflows start cells ∧
      sumInts name start cells = .error (.failed (.runningSumOverflow name))) := by
  induction cells generalizing start with
  | nil => exact .inl ⟨by simpa [Cell.sumOverflows_nil] using isWord, [], rfl, .nil⟩
  | cons cell rest ih =>
      rw [List.forall_mem_cons] at integers
      simp only [Cell.sumOverflows_cons, isWord, not_true_eq_false, false_or]
      rcases integers.1 with rfl | isInteger
      · simp only [sumInts, Cell.amount, Int.add_zero]
        rcases ih integers.2 isWord with ⟨stays, sums, summed, runs⟩ | ⟨overflows, failed⟩
        · rw [summed]
          exact .inl ⟨stays, _, rfl, .null runs⟩
        · rw [failed]
          exact .inr ⟨overflows, rfl⟩
      · obtain ⟨value, rfl⟩ := Cell.exists_integer isInteger
        rw [sumInts, Cell.amount]
        cases fits : word? (start + value.toInt) with
        | none =>
            have outside := word?_eq_none_iff.1 fits
            exact .inr ⟨⟨[], List.nil_prefix, by simpa using outside⟩, rfl⟩
        | some sum =>
            have exact : sum.toInt = start + value.toInt := toInt_of_word? fits
            rw [← exact]
            simp only
            rcases ih integers.2 (isWord_toInt sum) with
              ⟨stays, sums, summed, runs⟩ | ⟨overflows, failed⟩
            · rw [summed]
              exact .inl ⟨stays, _, rfl, .integer exact runs⟩
            · rw [failed]
              exact .inr ⟨overflows, rfl⟩

theorem RunsFrom.length_eq {start : Int} {cells sums : List Cell}
    (runs : RunsFrom start cells sums) :
    sums.length = cells.length := by
  induction runs with
  | nil => rfl
  | null rest ih => simp [ih]
  | integer exact rest ih => simp [ih]

/-- An empty cell stays empty, and any other one shows the sum of the cells up to it. -/
theorem RunsFrom.getElem? {start : Int} {cells sums : List Cell} (runs : RunsFrom start cells sums)
    {index : Nat} {cell : Cell} (atIndex : cells[index]? = some cell) :
    (cell = .null ∧ sums[index]? = some .null) ∨
    (cell ≠ .null ∧ ∃ sum : Int64, sums[index]? = some (.integer sum) ∧
      sum.toInt = start + ((cells.take (index + 1)).map Cell.amount).sum) := by
  induction runs generalizing index with
  | nil => simp at atIndex
  | null rest ih =>
      cases index with
      | zero =>
          cases atIndex
          exact .inl ⟨rfl, rfl⟩
      | succ index => simpa [Cell.amount] using ih atIndex
  | integer exact rest ih =>
      cases index with
      | zero =>
          cases atIndex
          exact .inr ⟨by simp, _, rfl, by simpa [Cell.amount] using exact⟩
      | succ index => simpa [Cell.amount, exact, Int.add_assoc] using ih atIndex

end RunningSum

/-- The exact sum of the cells under a name in the rows of a group up to a row. -/
def Table.sumUpTo (table : Table) (name : String) (group : List Nat) (row : Nat) : Int :=
  ((group.filter (· ≤ row)).map fun other => (table.cellAt other name).amount).sum

/-- Where nothing is added after a row, the sum up to it is the whole sum. -/
theorem Table.sumUpTo_eq_sum {table : Table} {name : String} {group : List Nat} {row : Nat}
    (nothing : ∀ later ∈ group, row < later → (table.cellAt later name).amount = 0) :
    table.sumUpTo name group row =
      (group.map fun other => (table.cellAt other name).amount).sum := by
  have after : ((group.filter fun other => ¬ other ≤ row).map fun other =>
      (table.cellAt other name).amount).sum = 0 := by
    apply List.sum_eq_zero
    rw [List.forall_mem_map]
    intro later member
    rw [List.mem_filter, decide_eq_true_eq, Nat.not_le] at member
    exact nothing later member.1 member.2
  have whole := List.sum_map_filter_add_sum_map_filter_not (· ≤ row)
    (fun other => (table.cellAt other name).amount) group
  rw [after, Int.add_zero] at whole
  exact whole

/-- Sums of integers that are not negative do not decrease. -/
theorem Table.sumUpTo_le_sumUpTo {table : Table} {name : String} {group : List Nat}
    (nonneg : ∀ row ∈ group, 0 ≤ (table.cellAt row name).amount) {first second : Nat}
    (ordered : first ≤ second) :
    table.sumUpTo name group first ≤ table.sumUpTo name group second := by
  have fewer : (group.filter (· ≤ first)).Sublist (group.filter (· ≤ second)) := by
    apply List.monotone_filter_right
    intro row before
    simp only [decide_eq_true_eq] at before ⊢
    exact Nat.le_trans before ordered
  apply (fewer.map _).sum_le_sum
  rw [List.forall_mem_map]
  intro row member
  exact nonneg row (List.mem_of_mem_filter member)

namespace RunningSum

variable {table output : Table} {column : Column} {groups : List (List Nat)} {group : List Nat}

structure Sums (running : RunningSum) (table output : Table) (group : List Nat) : Prop where
  null_iff : ∀ row ∈ group,
    output.cellAt row running.outputColumn = .null ↔ table.cellAt row running.column = .null
  exact : ∀ row ∈ group, table.cellAt row running.column ≠ .null →
    ∃ sum : Int64, output.cellAt row running.outputColumn = .integer sum ∧
      sum.toInt = table.sumUpTo running.column group row
  /-- The last sum is that of the whole group. -/
  total : ∀ row ∈ group, output.cellAt row running.outputColumn ≠ .null →
    (∀ later ∈ group, row < later → output.cellAt later running.outputColumn = .null) →
    ∃ sum : Int64, output.cellAt row running.outputColumn = .integer sum ∧
      sum.toInt = (group.map fun other => (table.cellAt other running.column).amount).sum
  /-- Sums of integers that are not negative do not decrease. -/
  monotone : (∀ row ∈ group, 0 ≤ (table.cellAt row running.column).amount) →
    ∀ first ∈ group, ∀ second ∈ group, first ≤ second → ∀ before after : Int64,
      output.cellAt first running.outputColumn = .integer before →
      output.cellAt second running.outputColumn = .integer after → before.toInt ≤ after.toInt

/-- What follows of running sums that are exact in every row. -/
theorem sums_of_exact {running : RunningSum}
    (exact : ∀ row ∈ group,
      (table.cellAt row running.column = .null ∧
        output.cellAt row running.outputColumn = .null) ∨
      (table.cellAt row running.column ≠ .null ∧
        ∃ sum : Int64, output.cellAt row running.outputColumn = .integer sum ∧
          sum.toInt = table.sumUpTo running.column group row)) :
    running.Sums table output group := by
  have shown {row : Nat} (member : row ∈ group)
      (filled : output.cellAt row running.outputColumn ≠ .null) :
      ∃ sum : Int64, output.cellAt row running.outputColumn = .integer sum ∧
        sum.toInt = table.sumUpTo running.column group row := by
    rcases exact row member with ⟨-, empty⟩ | ⟨-, sum⟩
    · exact absurd empty filled
    · exact sum
  have null_iff : ∀ row ∈ group,
      output.cellAt row running.outputColumn = .null ↔
        table.cellAt row running.column = .null := by
    intro row member
    rcases exact row member with ⟨empty, emptyOutput⟩ | ⟨filled, sum, atRow, -⟩
    · simp [empty, emptyOutput]
    · simp [filled, atRow]
  refine ⟨null_iff, ?_, ?_, ?_⟩
  · intro row member filled
    exact shown member fun empty => filled ((null_iff row member).1 empty)
  · intro row member filled last
    obtain ⟨sum, atRow, exactSum⟩ := shown member filled
    refine ⟨sum, atRow, exactSum.trans (Table.sumUpTo_eq_sum ?_)⟩
    intro later inGroup after
    rw [(null_iff later inGroup).1 (last later inGroup after)]
    rfl
  · intro nonneg first firstIn second secondIn ordered before after atFirst atSecond
    obtain ⟨sum, isFirst, exactFirst⟩ := shown firstIn (by simp [atFirst])
    obtain ⟨other, isSecond, exactSecond⟩ := shown secondIn (by simp [atSecond])
    cases atFirst.symm.trans isFirst
    cases atSecond.symm.trans isSecond
    rw [exactFirst, exactSecond]
    exact Table.sumUpTo_le_sumUpTo nonneg ordered

/-- A group of integers is summed, or its sum leaves the range of the words. -/
theorem sumGroup_cases (only : column.HoldsOnly .integer) (group : List Nat) :
    (¬ Cell.SumOverflows 0 (group.map column.cellAt) ∧
      ∃ sums, sumGroup false column group = .ok (group.zip sums) ∧
        RunsFrom 0 (group.map column.cellAt) sums) ∨
    (Cell.SumOverflows 0 (group.map column.cellAt) ∧
      sumGroup false column group = .error (.failed (.runningSumOverflow column.name))) := by
  have integers : ∀ cell ∈ group.map column.cellAt, cell.OfKind .integer := by
    rw [List.forall_mem_map]
    exact fun row _ => only.cellAt row
  rcases sumInts_cases column.name integers (by decide : IsWord 0) with
    ⟨stays, sums, summed, runs⟩ | ⟨overflows, failed⟩
  · exact .inl ⟨stays, sums, by simp [sumGroup, summed], runs⟩
  · exact .inr ⟨overflows, by simp [sumGroup, failed]⟩

/-- The running sums of a group hold the exact sum of the group up to each row. -/
theorem lookup_zip_of_runsFrom (increasing : group.Pairwise (· < ·)) {sums : List Cell}
    (runs : RunsFrom 0 (group.map column.cellAt) sums) {row : Nat} (member : row ∈ group) :
    (column.cellAt row = .null ∧ (group.zip sums).lookup row = some .null) ∨
    (column.cellAt row ≠ .null ∧ ∃ sum : Int64, (group.zip sums).lookup row = some (.integer sum) ∧
      sum.toInt = ((group.filter (· ≤ row)).map fun other =>
        (column.cellAt other).amount).sum) := by
  obtain ⟨index, atIndex⟩ := List.getElem?_of_mem member
  have lengths : group.length ≤ sums.length := by
    rw [runs.length_eq, List.length_map]
  have nodup : ((group.zip sums).map Prod.fst).Nodup := by
    rw [List.map_fst_zip lengths]
    exact increasing.imp Nat.ne_of_lt
  have placed {cell : Cell} (shown : sums[index]? = some cell) :
      (group.zip sums).lookup row = some cell :=
    lookup_eq_some_of_mem nodup
      (List.mem_of_getElem? (List.getElem?_zip_eq_some.2 ⟨atIndex, shown⟩))
  have atCell : (group.map column.cellAt)[index]? = some (column.cellAt row) := by
    rw [List.getElem?_map, atIndex, Option.map_some]
  rcases runs.getElem? atCell with ⟨empty, shown⟩ | ⟨filled, sum, shown, exact⟩
  · exact .inl ⟨empty, placed shown⟩
  · rw [← List.map_take, take_eq_filter_le increasing atIndex, List.map_map, Int.zero_add] at exact
    exact .inr ⟨filled, sum, placed shown, exact⟩

/-- Integers are summed as integers. -/
theorem apply_of_integers {running : RunningSum} (found : table.column running.column = .ok column)
    (only : column.HoldsOnly .integer) :
    running.apply table =
      table.placeGroups running.groups running.outputColumn (sumGroup false column) := by
  have kinds : ∀ kind ∈ column.kinds, kind = .integer := by
    intro kind member
    obtain ⟨cell, inColumn, ofKind⟩ := Column.mem_kinds.1 member
    rcases only cell inColumn with rfl | isInteger
    · cases ofKind
    · exact Option.some.inj (ofKind.symm.trans isInteger)
  have numeric : requireNumeric column .number = .ok column.kinds :=
    requireNumeric_eq_ok_iff.2 ⟨fun kind member => by rw [kinds kind member]; rfl, rfl⟩
  have noFloat : column.kinds.contains .float = false := by
    rw [← Bool.not_eq_true, List.contains_iff_mem]
    intro member
    cases kinds _ member
  rw [apply_eq running found numeric, noFloat]

/-- The failures in a table are the overflows in its groups. -/
theorem placeGroups_eq_error_iff (wellFormed : table.WellFormed) (only : column.HoldsOnly .integer)
    {keys : List String} (grouped : table.groupRows keys = .ok groups) (name : String)
    (error : StepError) :
    table.placeGroups keys name (sumGroup false column) = .error error ↔
      error = .failed (.runningSumOverflow column.name) ∧
        ∃ group ∈ groups, Cell.SumOverflows 0 (group.map column.cellAt) := by
  have ofGroup {found : StepError}
      (failed : table.placeGroups keys name (sumGroup false column) = .error found) :
      found = .failed (.runningSumOverflow column.name) ∧
        ∃ group ∈ groups, Cell.SumOverflows 0 (group.map column.cellAt) := by
    obtain ⟨group, member, failedThere⟩ := wellFormed.exists_of_placeGroups_error grouped failed
    rcases sumGroup_cases only group with ⟨-, sums, summed, -⟩ | ⟨overflows, overflowed⟩
    · rw [summed] at failedThere
      cases failedThere
    · rw [overflowed] at failedThere
      cases failedThere
      exact ⟨rfl, group, member, overflows⟩
  refine ⟨ofGroup, ?_⟩
  rintro ⟨rfl, group, member, overflows⟩
  cases applied : table.placeGroups keys name (sumGroup false column) with
  | error found => rw [(ofGroup applied).1]
  | ok output =>
      obtain ⟨entries, computed⟩ :=
        (wellFormed.exists_placeGroups_iff grouped name _).1 ⟨output, applied⟩ group member
      rcases sumGroup_cases only group with ⟨stays, -⟩ | ⟨-, overflowed⟩
      · exact absurd overflows stays
      · rw [overflowed] at computed
        cases computed

/-- Running sums of integers fail exactly if the sum of a group leaves the range of the words on the
way.  Otherwise every row has the exact sum of its group up to it, if it is not empty. -/
theorem apply_sums (running : RunningSum) (table : Table) (wellFormed : table.WellFormed)
    (known : table.hasColumn running.column = true)
    (integers : ∀ row, (table.cellAt row running.column).OfKind .integer) :
    (∀ fault, running.apply table = .error (.failed fault) ↔
      fault = .runningSumOverflow running.column ∧
        ∃ groups, table.groupRows running.groups = .ok groups ∧
          ∃ group ∈ groups,
            Cell.SumOverflows 0 (group.map fun row => table.cellAt row running.column)) ∧
    ∀ groups, table.groupRows running.groups = .ok groups →
      table.IsGroupedBy running.groups groups ∧
      ((∀ group ∈ groups,
          ¬ Cell.SumOverflows 0 (group.map fun row => table.cellAt row running.column)) →
        ∃ output, running.apply table = .ok output ∧
          ∀ group ∈ groups, running.Sums table output group) := by
  obtain ⟨column, found⟩ := Table.exists_column known
  have only := (Table.holdsOnly_iff found).2 integers
  have named := Table.name_of_column found
  simp only [Table.cellAt_eq_of_column found, apply_of_integers found only]
  constructor
  · intro fault
    cases grouped : table.groupRows running.groups with
    | error error =>
        obtain ⟨name, -, rfl⟩ := Table.exists_of_groupRows_error grouped
        simp [Table.placeGroups_of_error grouped]
    | ok groups =>
        rw [placeGroups_eq_error_iff wellFormed only grouped, named]
        simp
  · intro groups grouped
    have classes := Table.isGroupedBy_of_groupRows grouped
    refine ⟨classes, ?_⟩
    intro stays
    cases applied :
      table.placeGroups running.groups running.outputColumn (sumGroup false column) with
    | error error =>
        obtain ⟨-, group, member, overflows⟩ :=
          (placeGroups_eq_error_iff wellFormed only grouped _ error).1 applied
        exact absurd overflows (stays group member)
    | ok output =>
        refine ⟨output, rfl, ?_⟩
        intro group member
        apply sums_of_exact
        intro row inGroup
        obtain ⟨entries, computed, cell⟩ :=
          (rowWise_sumGroup false).cellAt_of_placeGroups wellFormed grouped applied member inGroup
        rcases sumGroup_cases only group with ⟨-, sums, summed, runs⟩ | ⟨overflows, -⟩
        · rw [summed] at computed
          cases computed
          rw [cell]
          simp only [Table.sumUpTo, Table.cellAt_eq_of_column found]
          rcases lookup_zip_of_runsFrom (classes.increasing group member) runs inGroup with
            ⟨empty, placed⟩ | ⟨filled, sum, placed, exact⟩
          · exact .inl ⟨empty, by rw [placed, Option.getD_some]⟩
          · exact .inr ⟨filled, sum, by rw [placed, Option.getD_some], exact⟩
        · exact absurd overflows (stays group member)

/-- Deposits into two accounts in turns, with a gap, and an amount at the upper end of the words. -/
def deposits : Table :=
  { columns :=
      [⟨"account", [.text "a", .text "b", .text "a", .text "b", .text "a"]⟩,
       ⟨"amount",
        [.integer 5, .integer 9223372036854775807, .null, .integer (-1), .integer 2]⟩]
    rowCount := 5 }

/-- The deposits with the running sums of each account. -/
def depositsWithSums : Table :=
  { columns := deposits.columns ++
      [⟨"amount_CUMSUM", [.integer 5, .integer 9223372036854775807, .null,
        .integer 9223372036854775806, .integer 7]⟩]
    rowCount := 5 }

/-- The sums of the accounts are exact, and the sum of all deposits overflows. -/
theorem apply_sums_deposits :
    deposits.WellFormed ∧ deposits.hasColumn "amount" = true ∧
      (∀ row, (deposits.cellAt row "amount").OfKind .integer) ∧
      deposits.groupRows ["account"] = .ok [[0, 2, 4], [1, 3]] ∧
      RunningSum.apply ⟨"amount", ["account"], none⟩ deposits = .ok depositsWithSums ∧
      (∀ group ∈ [[0, 2, 4], [1, 3]],
        Sums ⟨"amount", ["account"], none⟩ deposits depositsWithSums group) ∧
      RunningSum.apply ⟨"amount", [], none⟩ deposits =
        .error (.failed (.runningSumOverflow "amount")) ∧
      ∃ groups, deposits.groupRows [] = .ok groups ∧
        ∃ group ∈ groups,
          Cell.SumOverflows 0 (group.map fun row => deposits.cellAt row "amount") := by
  have wellFormed : deposits.WellFormed := ⟨by decide, by decide⟩
  have known : deposits.hasColumn "amount" = true := by decide
  have found : deposits.column "amount" = .ok ⟨"amount",
      [.integer 5, .integer 9223372036854775807, .null, .integer (-1), .integer 2]⟩ := rfl
  have integers : ∀ row, (deposits.cellAt row "amount").OfKind .integer := by
    apply (Table.holdsOnly_iff found).1
    simp [Column.HoldsOnly, Cell.OfKind, Cell.kind?]
  have grouped : deposits.groupRows ["account"] = .ok [[0, 2, 4], [1, 3]] := rfl
  have applied : RunningSum.apply ⟨"amount", ["account"], none⟩ deposits = .ok depositsWithSums :=
    rfl
  have failed : RunningSum.apply ⟨"amount", [], none⟩ deposits =
      .error (.failed (.runningSumOverflow "amount")) := rfl
  have byAccount := apply_sums ⟨"amount", ["account"], none⟩ deposits wellFormed known integers
  have together := apply_sums ⟨"amount", [], none⟩ deposits wellFormed known integers
  obtain ⟨output, appliedOutput, sums⟩ := (byAccount.2 _ grouped).2 fun group member overflows => by
    have overflowed := (byAccount.1 _).2 ⟨rfl, _, grouped, group, member, overflows⟩
    rw [applied] at overflowed
    cases overflowed
  rw [applied] at appliedOutput
  cases appliedOutput
  exact ⟨wellFormed, known, integers, grouped, applied, sums, failed, ((together.1 _).1 failed).2⟩

end RunningSum

end TableFlow
