import TableFlow.Proofs.Condition.Leaves
import TableFlow.Proofs.Transform.RowWise

/-!
# Filters that run one after the other

To keep the rows in which all of some conditions hold is to filter by these conditions one after the
other, in any order.  A later filter runs on a smaller table, where the rows that are left have
other numbers, but a condition has the truth in a row that it has in the whole table.  And fewer
rows give a condition fewer occasions to fail: the filters one after the other may well succeed
where the one filter does not.

Main statement: `Filter.apply_all_fuses`.
-/

namespace TableFlow

open TableFlow.Condition

variable {table : Table} {rows : List Nat}

namespace Filter

/-- Filter a table by some conditions one after the other; the first failure ends it. -/
def applyEach (conditions : List Condition) (table : Table) : Except StepError Table :=
  conditions.foldlM (fun current condition => (Filter.condition condition).apply current) table

theorem applyEach_cons (condition : Condition) (rest : List Condition) (table : Table) :
    applyEach (condition :: rest) table =
      ((Filter.condition condition).apply table).bind (applyEach rest) :=
  List.foldlM_cons

/-- A filter keeps of the rows taken those in which its condition holds. -/
theorem apply_condition_takeRows (wellFormed : table.WellFormed) {condition : Condition}
    (evaluable : ∃ mask, condition.evaluate table = .ok mask) (inside : table.HasRows rows) :
    (Filter.condition condition).apply (table.takeRows rows) =
      .ok (table.takeRows (rows.filter fun row => condition.holds (table.cellAt row))) := by
  obtain ⟨mask, evaluated⟩ := evaluable
  have kept : (rows.filter fun row => mask.getD row false) =
      rows.filter fun row => condition.holds (table.cellAt row) := by
    rw [eq_map_holds_of_evaluate wellFormed evaluated]
    apply List.filter_congr
    intro row member
    simp [inside row member]
  rw [← kept]
  exact apply_takeRows wellFormed evaluated inside

/-- Filters one after the other keep of the rows taken those in which all conditions hold. -/
theorem applyEach_takeRows (wellFormed : table.WellFormed) {conditions : List Condition}
    (evaluable : ∀ condition ∈ conditions, ∃ mask, condition.evaluate table = .ok mask)
    (inside : table.HasRows rows) :
    applyEach conditions (table.takeRows rows) =
      .ok (table.takeRows (rows.filter fun row => conditions.all (holds (table.cellAt row)))) := by
  induction conditions generalizing rows with
  | nil => simp [applyEach, pure, Except.pure]
  | cons condition rest ih =>
      rw [List.forall_mem_cons] at evaluable
      have insideKept : table.HasRows
          (rows.filter fun row => condition.holds (table.cellAt row)) :=
        fun row member => inside row (List.mem_of_mem_filter member)
      rw [applyEach_cons, apply_condition_takeRows wellFormed evaluable.1 inside, Except.bind,
        ih evaluable.2 insideKept, List.filter_filter]
      simp only [List.all_cons, Bool.and_comm]

/-- A filter that keeps the rows in which all of some conditions hold can be taken apart: the
filters by the single conditions, one after the other and in any order, keep the same rows. -/
theorem apply_all_fuses (conditions order : List Condition) (perm : order.Perm conditions)
    (table output : Table) (wellFormed : table.WellFormed)
    (applied : (Filter.condition (.all conditions)).apply table = .ok output) :
    applyEach order table = .ok output := by
  have evaluable : ∃ mask, (Condition.all conditions).evaluate table = .ok mask := by
    rw [apply, mask] at applied
    cases evaluated : (Condition.all conditions).evaluate table with
    | error error =>
        rw [evaluated] at applied
        cases applied
    | ok mask => exact ⟨mask, rfl⟩
  have allRows : table.HasRows (List.range table.rowCount) := fun row => List.mem_range.1
  have together := apply_condition_takeRows wellFormed evaluable allRows
  have oneByOne := applyEach_takeRows wellFormed
    (fun condition member => exists_evaluate_all_iff.1 evaluable condition (perm.mem_iff.1 member))
    allRows
  simp only [perm.all_eq] at oneByOne
  simp only [wellFormed.takeRows_range, holds, holdAll_eq] at together oneByOne
  rw [oneByOne, ← together, applied]

/-- Parcels, of which one has no weight and one no state. -/
def parcels : Table :=
  { columns :=
      [⟨"weight", [.integer 4, .null, .integer 30, .float 12, .integer 18]⟩,
       ⟨"state", [.text "sent", .text "sent", .text "lost", .null, .text "held"]⟩]
    rowCount := 5 }

/-- Some weight, a state other than sent, and a low weight unless the parcel is held. -/
def parcelTests : List Condition :=
  [.null "weight" .notNull,
   .compare "state" .ne (.text "sent"),
   .any [.compare "weight" .lt (.float 16), .member "state" .within [.text "held", .null]]]

/-- From the last condition to the first one the filters keep what the one filter keeps. -/
theorem apply_all_fuses_parcels :
    parcels.WellFormed ∧ parcelTests.reverse.Perm parcelTests ∧
      (Filter.condition (.all parcelTests)).apply parcels = .ok (parcels.takeRows [3, 4]) ∧
      applyEach parcelTests.reverse parcels = .ok (parcels.takeRows [3, 4]) := by
  have wellFormed : parcels.WellFormed := ⟨by decide, by decide⟩
  have perm := parcelTests.reverse_perm
  have applied : (Filter.condition (.all parcelTests)).apply parcels =
      .ok (parcels.takeRows [3, 4]) := rfl
  exact ⟨wellFormed, perm, applied,
    apply_all_fuses parcelTests parcelTests.reverse perm parcels _ wellFormed applied⟩

-- A text in a row that the first condition rules out makes the one filter fail, and not the two.
example :
    let mixed : Table :=
      ⟨[⟨"weight", [.integer 4, .text "?"]⟩, ⟨"known", [.boolean true, .boolean false]⟩], 2⟩
    let tests : List Condition :=
      [.compare "known" .eq (.boolean true), .compare "weight" .gt (.integer 0)]
    (Filter.condition (.all tests)).apply mixed =
        .error (.mismatch "weight" (.kind .integer) .text) ∧
      applyEach tests mixed = .ok (mixed.takeRows [0]) :=
  ⟨rfl, rfl⟩

end Filter

end TableFlow
