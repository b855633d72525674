import TableFlow.Proofs.Transform.RowWise

/-!
# Chains of alternatives

A chain is read from its first condition on: a row takes the value of the first condition that holds
there, or the value at the end if none does.  It is evaluated the other way round.  The value at the
end comes first, then the alternatives from the last one to the first one, the value of each before
its condition, and every part is evaluated on all rows.  So a part that fails makes the chain fail
whether or not a row takes its value, and of several parts that fail the one evaluated first gives
the error.

Main statement: `Branch.resolve_first`.
-/

namespace TableFlow

namespace Branch

/-- A condition with the value of the rows in which it decides. -/
structure Arm where
  condition : Condition
  accepted : Operand

/-- The conditions of a chain with their values, in reading order. -/
def arms : Branch → List Arm
  | .value _ => []
  | .choose condition accepted otherwise => ⟨condition, accepted⟩ :: otherwise.arms

/-- The value of the rows in which no condition holds. -/
def last : Branch → Operand
  | .value operand => operand
  | .choose _ _ otherwise => otherwise.last

/-- Whether a condition was found to hold in a row. -/
def Arm.holdsAt (table : Table) (row : Nat) (arm : Arm) : Bool :=
  match arm.condition.evaluate table with
  | .ok mask => mask.getD row false
  | .error _ => false

/-- The value of the first condition that holds in a row, or the value at the end. -/
def chosen (table : Table) (row : Nat) (branch : Branch) : Operand :=
  match branch.arms.find? (Arm.holdsAt table row) with
  | some arm => arm.accepted
  | none => branch.last

/-- The errors of all parts that fail: of the value at the end, and of the alternatives from the
last one to the first one, of the value of each before its condition. -/
def failures (table : Table) (branch : Branch) : List StepError :=
  (failure? (branch.last.resolve table)).toList ++
    branch.arms.reverse.flatMap fun arm =>
      (failure? (arm.accepted.resolve table)).toList ++
        (failure? (arm.condition.evaluate table)).toList

variable {table : Table} {condition : Condition} {accepted : Operand} {otherwise : Branch}

theorem chosen_choose (row : Nat) :
    (choose condition accepted otherwise).chosen table row =
      if Arm.holdsAt table row ⟨condition, accepted⟩ then accepted
      else otherwise.chosen table row := by
  rw [chosen, arms, List.find?_cons]
  cases Arm.holdsAt table row ⟨condition, accepted⟩ <;> rfl

theorem failures_choose :
    (choose condition accepted otherwise).failures table =
      otherwise.failures table ++ ((failure? (accepted.resolve table)).toList ++
        (failure? (condition.evaluate table)).toList) := by
  rw [failures, arms, last, List.reverse_cons, List.flatMap_append, List.flatMap_singleton,
    ← List.append_assoc, ← failures]

/-- A chain fails with the error that is met first. -/
theorem failure?_resolve (branch : Branch) (table : Table) :
    failure? (branch.resolve table) = (branch.failures table).head? := by
  induction branch with
  | value operand => simp [resolve, failures, arms, last]
  | choose condition accepted otherwise ih =>
      rw [failures_choose, List.head?_append, List.head?_append, ← ih, Option.head?_toList,
        Option.head?_toList, resolve]
      cases otherwise.resolve table with
      | error error => rfl
      | ok rejectedCells =>
          cases accepted.resolve table with
          | error error => rfl
          | ok acceptedCells => cases condition.evaluate table <;> rfl

theorem failures_eq_nil_iff {branch : Branch} :
    branch.failures table = [] ↔
      (∃ cells, branch.last.resolve table = .ok cells) ∧
        ∀ arm ∈ branch.arms, (∃ cells, arm.accepted.resolve table = .ok cells) ∧
          ∃ mask, arm.condition.evaluate table = .ok mask := by
  simp only [failures, List.append_eq_nil_iff, Option.toList_eq_nil_iff, List.flatMap_eq_nil_iff,
    List.mem_reverse, failure?_eq_none_iff]

/-- A chain that succeeds has in every row the cell of the value that is chosen there. -/
theorem exists_chosen_of_resolve (wellFormed : table.WellFormed) {branch : Branch}
    {cells : List Cell} (resolved : branch.resolve table = .ok cells) :
    ∃ cell : Nat → Cell, cells = (List.range table.rowCount).map cell ∧
      ∀ row < table.rowCount, ∃ values, (branch.chosen table row).resolve table = .ok values ∧
        values[row]? = some (cell row) := by
  induction branch generalizing cells with
  | value operand =>
      obtain ⟨cell, rfl, -⟩ := operand.goesByRows_resolve cells resolved
      refine ⟨cell, rfl, ?_⟩
      intro row bound
      exact ⟨_, resolved, by simp [bound]⟩
  | choose condition accepted otherwise ih =>
      obtain ⟨rejectedCells, acceptedCells, mask, otherwiseResolved, acceptedResolved, evaluated,
        rfl⟩ :=
        exists_of_resolve_choose resolved
      obtain ⟨rejected, rfl, rejectedRows⟩ := ih otherwiseResolved
      obtain ⟨taken, rfl, -⟩ := accepted.goesByRows_resolve _ acceptedResolved
      obtain ⟨test, rfl, -⟩ := condition.goesByRows_evaluate wellFormed _ evaluated
      refine ⟨_, chooseCells_map test taken rejected _, ?_⟩
      intro row bound
      have decides : Arm.holdsAt table row ⟨condition, accepted⟩ = test row := by
        simp [Arm.holdsAt, evaluated, bound]
      rw [chosen_choose, decides]
      cases test row with
      | true => exact ⟨_, acceptedResolved, by simp [bound]⟩
      | false => exact rejectedRows row bound

/-- A chain succeeds exactly if all of its parts do, and otherwise fails with the error met first
from its end.  If it succeeds it gives each row the value of the first condition that holds
there. -/
theorem resolve_first (branch : Branch) (table : Table) (wellFormed : table.WellFormed) :
    ((∃ cells, branch.resolve table = .ok cells) ↔
      (∃ cells, branch.last.resolve table = .ok cells) ∧
        ∀ arm ∈ branch.arms, (∃ cells, arm.accepted.resolve table = .ok cells) ∧
          ∃ mask, arm.condition.evaluate table = .ok mask) ∧
    (∀ cells, branch.resolve table = .ok cells →
      cells.length = table.rowCount ∧
        ∀ row < table.rowCount, ∃ values cell,
          (branch.chosen table row).resolve table = .ok values ∧
            values[row]? = some cell ∧ cells[row]? = some cell) ∧
    ∀ error, branch.resolve table = .error error ↔ (branch.failures table).head? = some error := by
  refine ⟨?_, ?_, ?_⟩
  · rw [← failure?_eq_none_iff, failure?_resolve, List.head?_eq_none_iff, failures_eq_nil_iff]
  · intro cells resolved
    obtain ⟨cell, rfl, rows⟩ := exists_chosen_of_resolve wellFormed resolved
    refine ⟨by simp, ?_⟩
    intro row bound
    obtain ⟨values, ofChosen, value⟩ := rows row bound
    exact ⟨values, cell row, ofChosen, value, by simp [bound]⟩
  · intro error
    rw [← failure?_resolve, failure?_eq_some_iff]

/-- Orders, of which one has no amount. -/
def orders : Table :=
  { columns := [⟨"amount", [.integer 500, .null, .integer 5, .integer 50]⟩]
    rowCount := 4 }

/-- Names for amounts, where a large amount meets both conditions. -/
def sizes : Branch :=
  .choose (.compare "amount" .ge (.integer 100)) (.constant (.text "large"))
    (.choose (.compare "amount" .gt (.integer 10)) (.constant (.text "medium"))
      (.value (.constant (.text "small"))))

/-- A chain of which no condition can be evaluated. -/
def unknownSizes : Branch :=
  .choose (.compare "weight" .ge (.integer 100)) (.constant (.text "heavy"))
    (.choose (.compare "length" .ge (.integer 100)) (.constant (.text "long"))
      (.value (.constant (.text "small"))))

/-- The first condition that holds decides, and the last one that fails. -/
theorem resolve_first_orders :
    orders.WellFormed ∧
      sizes.resolve orders = .ok [.text "large", .text "small", .text "small", .text "medium"] ∧
      (∀ row < 4, ∃ values cell, (sizes.chosen orders row).resolve orders = .ok values ∧
        values[row]? = some cell ∧
          ([.text "large", .text "small", .text "small", .text "medium"] : List Cell)[row]? =
            some cell) ∧
      (unknownSizes.failures orders).head? = some (.missingColumn "length") ∧
      unknownSizes.resolve orders = .error (.missingColumn "length") := by
  have wellFormed : orders.WellFormed := ⟨by decide, by decide⟩
  have resolved : sizes.resolve orders =
      .ok [.text "large", .text "small", .text "small", .text "medium"] := rfl
  have first : (unknownSizes.failures orders).head? = some (.missingColumn "length") := rfl
  exact ⟨wellFormed, resolved, ((resolve_first sizes orders wellFormed).2.1 _ resolved).2, first,
    ((resolve_first unknownSizes orders wellFormed).2.2 _).2 first⟩

end Branch

end TableFlow
