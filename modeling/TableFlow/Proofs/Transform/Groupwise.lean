import TableFlow.Proofs.Transform.Extreme
import TableFlow.Proofs.Transform.Reduction
import TableFlow.Transform.Basic

/-!
# Groups as tables of their own

A transform that works on groups does to each group what it does, without keys, to the table of the
rows of that group.  Nothing passes from one group to another: the checks on whole columns hold in
every group, and what is computed for a group goes to its own rows or to its own row of the result.

Running sums are the exception.  A float anywhere in the column makes all sums floats, so a group of
integers is summed as integers only in a table of its own, and there the sum can overflow.

Main statement: `Transform.apply_groupwise`.
-/

namespace TableFlow.Transform

/-- The key columns of a transform that works on groups. -/
def groupKeys? : Transform → Option (List String)
  | .extreme _ definition => some definition.groups
  | .rank definition => some definition.groups
  | .share definition => some definition.groups
  | .runningSum definition => some definition.groups
  | .aggregate definition => some definition.keys
  | .statistics definition => some definition.keys
  | _ => none

/-- The same transform with no key columns. -/
def ungrouped : Transform → Transform
  | .extreme side definition => .extreme side { definition with groups := [] }
  | .rank definition => .rank { definition with groups := [] }
  | .share definition => .share { definition with groups := [] }
  | .runningSum definition => .runningSum { definition with groups := [] }
  | .aggregate definition => .aggregate { definition with keys := [] }
  | .statistics definition => .statistics { definition with keys := [] }
  | transform => transform

/-- The effect of a transform without keys on the table of some rows. -/
def applyRows (transform : Transform) (table : Table) (rows : List Nat) : Except StepError Table :=
  transform.ungrouped.apply (table.takeRows rows)

/-- The running sums of a group overflow in a table of its own: the group has no float, which its
column has elsewhere. -/
def Overflows (transform : Transform) (table : Table) (rows : List Nat) : Prop :=
  ∃ definition, transform = .runningSum definition ∧
    table.HoldsFloat definition.column ∧ ¬ (table.takeRows rows).HoldsFloat definition.column ∧
    transform.applyRows table rows = .error (.failed (.runningSumOverflow definition.column))

/-- An integer at the upper end of the words in one group, and a float in another. -/
def mixedAmounts : Table :=
  { columns :=
      [⟨"account", [.text "a", .text "a", .text "b"]⟩,
       ⟨"amount", [.integer 9223372036854775807, .integer 1, .float 1.0]⟩]
    rowCount := 3 }

/-- Running sums by account succeed, but those of one account alone overflow. -/
theorem applyRows_mixedAmounts :
    mixedAmounts.WellFormed ∧
      mixedAmounts.groupRows ["account"] = .ok [[0, 1], [2]] ∧
      (∃ output, (Transform.runningSum ⟨"amount", ["account"], none⟩).apply mixedAmounts =
        .ok output) ∧
      (Transform.runningSum ⟨"amount", ["account"], none⟩).applyRows mixedAmounts [0, 1] =
        .error (.failed (.runningSumOverflow "amount")) := by
  exact ⟨⟨by decide, by decide⟩, rfl, ⟨_, rfl⟩, rfl⟩

/-- An output is made up of the outputs for the tables of the groups: of all their rows, of their
cells in the rows of the group, or of their one row in the place of the group. -/
def Assembles (transform : Transform) (table output : Table) (groups : List (List Nat)) : Prop :=
  match transform with
  | .extreme _ _ =>
      ∃ parts, groups.mapM (transform.applyRows table) = .ok parts ∧
        output = .stack table.names parts
  | .rank definition =>
      ∀ rows ∈ groups, ∀ part, transform.applyRows table rows = .ok part →
        output.Restricts part definition.outputColumn rows
  | .share definition =>
      ∀ rows ∈ groups, ∀ part, transform.applyRows table rows = .ok part →
        output.Restricts part definition.outputColumn rows
  | .runningSum definition =>
      ∀ rows ∈ groups,
        (table.HoldsFloat definition.column → (table.takeRows rows).HoldsFloat definition.column) →
        ∀ part, transform.applyRows table rows = .ok part →
          output.Restricts part definition.outputColumn rows
  | .aggregate definition =>
      definition.keepRows = false → ∀ (index : Nat) (rows : List Nat), groups[index]? = some rows →
        ∀ part, transform.applyRows table rows = .ok part →
          ∀ name ∈ definition.targets, output.Restricts part name [index]
  | .statistics definition =>
      ∀ (index : Nat) (rows : List Nat), groups[index]? = some rows →
        ∀ part, transform.applyRows table rows = .ok part →
          ∀ name ∈ definition.targets, output.Restricts part name [index]
  | _ => True

/-- A run that succeeds with a value that has a property has no value without it. -/
theorem exists_ok_and {run : Except StepError Table} {holds : Table → Prop}
    (ran : ∃ part, run = .ok part ∧ holds part) :
    (∃ part, run = .ok part) ∧ ∀ part, run = .ok part → holds part := by
  obtain ⟨part, ok, held⟩ := ran
  refine ⟨⟨part, ok⟩, ?_⟩
  intro other okOther
  cases ok.symm.trans okOther
  exact held

/-- A transform that works on groups succeeds on the table of every group, unless running sums
overflow there, and its output is made up of the outputs for these tables. -/
theorem apply_groupwise (transform : Transform) (keys : List String)
    (works : transform.groupKeys? = some keys) (table output : Table)
    (wellFormed : table.WellFormed) (applied : transform.apply table = .ok output) :
    ∃ groups, table.groupRows keys = .ok groups ∧
      (∀ rows ∈ groups,
        (∃ part, transform.applyRows table rows = .ok part) ∨ transform.Overflows table rows) ∧
      transform.Assembles table output groups := by
  cases transform <;> try cases works
  case extreme side definition =>
    obtain ⟨groups, parts, grouped, traversed, stacked⟩ := Extreme.apply_eq_stack wellFormed applied
    refine ⟨groups, grouped, ?_, parts, traversed, stacked⟩
    intro rows member
    obtain ⟨value, each, -⟩ := exists_of_mapM_eq_ok table traversed
    exact .inl ⟨value rows, each rows member⟩
  case rank definition =>
    obtain ⟨groups, grouped, each⟩ := Rank.restricts_apply wellFormed applied
    refine ⟨groups, grouped, ?_, ?_⟩
    · intro rows member
      exact .inl (exists_ok_and (each rows member)).1
    · intro rows member
      exact (exists_ok_and (each rows member)).2
  case share definition =>
    obtain ⟨groups, grouped, each⟩ := Share.restricts_apply wellFormed applied
    refine ⟨groups, grouped, ?_, ?_⟩
    · intro rows member
      exact .inl (exists_ok_and (each rows member)).1
    · intro rows member
      exact (exists_ok_and (each rows member)).2
  case runningSum definition =>
    obtain ⟨groups, grouped, each⟩ := RunningSum.restricts_apply wellFormed applied
    refine ⟨groups, grouped, ?_, ?_⟩
    · intro rows member
      rcases each rows member with ⟨-, ran⟩ | ⟨holds, lacks, ran | overflows⟩
      · exact .inl (exists_ok_and ran).1
      · exact .inl ran
      · exact .inr ⟨definition, rfl, holds, lacks, overflows⟩
    · intro rows member alike
      rcases each rows member with ⟨-, ran⟩ | ⟨holds, lacks, -⟩
      · exact (exists_ok_and ran).2
      · exact absurd (alike holds) lacks
  case aggregate definition =>
    obtain ⟨groups, grouped, each⟩ := Aggregate.restricts_apply wellFormed applied
    refine ⟨groups, grouped, ?_, ?_⟩
    · intro rows member
      obtain ⟨index, atIndex⟩ := List.getElem?_of_mem member
      exact .inl (exists_ok_and (each index rows atIndex)).1
    · intro rowsDropped index rows atIndex part ran
      exact (exists_ok_and (each index rows atIndex)).2 part ran rowsDropped
  case statistics definition =>
    obtain ⟨groups, grouped, each⟩ := Statistics.restricts_apply applied
    refine ⟨groups, grouped, ?_, ?_⟩
    · intro rows member
      obtain ⟨index, atIndex⟩ := List.getElem?_of_mem member
      exact .inl (exists_ok_and (each index rows atIndex)).1
    · intro index rows atIndex
      exact (exists_ok_and (each index rows atIndex)).2

/-- Two teams in turns, one with numbers and one with booleans, and a gap. -/
def mixedScores : Table :=
  { columns :=
      [⟨"team", [.text "a", .text "b", .text "a", .text "b", .text "a"]⟩,
       ⟨"score", [.integer 3, .boolean true, .null, .boolean false, .integer 1]⟩]
    rowCount := 5 }

/-- The ranks within the teams. -/
def teamRanks : Transform :=
  .rank ⟨"score", .ascending, .standard, ["team"], none⟩

/-- A team with numbers and a team with booleans are ranked side by side, each as if it were
alone. -/
theorem apply_groupwise_teamRanks :
    teamRanks.groupKeys? = some ["team"] ∧ mixedScores.WellFormed ∧
      teamRanks.apply mixedScores =
        .ok ⟨mixedScores.columns ++
          [⟨"score_RANK", [.integer 2, .integer 2, .null, .integer 1, .integer 1]⟩], 5⟩ ∧
      ∃ groups, mixedScores.groupRows ["team"] = .ok groups ∧
        (∀ rows ∈ groups, (∃ part, teamRanks.applyRows mixedScores rows = .ok part) ∨
          teamRanks.Overflows mixedScores rows) ∧
        teamRanks.Assembles mixedScores
          ⟨mixedScores.columns ++
            [⟨"score_RANK", [.integer 2, .integer 2, .null, .integer 1, .integer 1]⟩], 5⟩
          groups := by
  have wellFormed : mixedScores.WellFormed := ⟨by decide, by decide⟩
  have applied : teamRanks.apply mixedScores =
      .ok ⟨mixedScores.columns ++
        [⟨"score_RANK", [.integer 2, .integer 2, .null, .integer 1, .integer 1]⟩], 5⟩ := rfl
  exact ⟨rfl, wellFormed, applied,
    apply_groupwise teamRanks ["team"] rfl mixedScores _ wellFormed applied⟩

end TableFlow.Transform
