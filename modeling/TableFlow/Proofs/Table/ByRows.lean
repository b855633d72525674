import TableFlow.Proofs.Table.Taking

/-!
# Computations that go by rows

A computation on a table goes by rows if it gives one entry for each row, and if the table of some
of the rows gives the entries that these rows have in the whole table.  It may fail on the whole
table for the sake of any row, but where it does not fail the rows tell nothing about each other.
The cells of a column go by rows, and what is computed from entries of the same row does too.
-/

namespace TableFlow

/-- The error of a computation that fails. -/
def failure? {α : Type} : Except StepError α → Option StepError
  | .ok _ => none
  | .error error => some error

theorem failure?_eq_some_iff {α : Type} {outcome : Except StepError α} {error : StepError} :
    failure? outcome = some error ↔ outcome = .error error := by
  cases outcome <;> simp [failure?]

theorem failure?_eq_none_iff {α : Type} {outcome : Except StepError α} :
    failure? outcome = none ↔ ∃ result, outcome = .ok result := by
  cases outcome <;> simp [failure?]

namespace Table

variable {α β γ ε ζ : Type} {table : Table}

def HasRows (table : Table) (rows : List Nat) : Prop :=
  ∀ row ∈ rows, row < table.rowCount

/-- A computation goes by rows at a table: if it succeeds there, it gives one entry for each row,
and the table of some of these rows gives their entries. -/
def GoesByRows (table : Table) (compute : Table → Except ε (List α)) : Prop :=
  ∀ entries, compute table = .ok entries →
    ∃ entry : Nat → α, entries = (List.range table.rowCount).map entry ∧
      ∀ rows, table.HasRows rows → compute (table.takeRows rows) = .ok (rows.map entry)

theorem GoesByRows.length_eq {compute : Table → Except ε (List α)}
    (byRows : table.GoesByRows compute) {entries : List α}
    (computed : compute table = .ok entries) :
    entries.length = table.rowCount := by
  obtain ⟨entry, rfl, -⟩ := byRows entries computed
  rw [List.length_map, List.length_range]

/-- One entry for all rows. -/
theorem goesByRows_replicate (entry : α) :
    table.GoesByRows fun table =>
      (.ok (List.replicate table.rowCount entry) : Except ε (List α)) := by
  intro entries computed
  cases computed
  refine ⟨fun _ => entry, ?_, ?_⟩
  · rw [List.map_const', List.length_range]
  · intro rows inside
    rw [List.map_const']
    rfl

/-- The cells of a column. -/
theorem WellFormed.goesByRows_column (wellFormed : table.WellFormed) (name : String) :
    table.GoesByRows fun table => (table.column name).map Column.cells := by
  intro entries computed
  obtain ⟨column, found, rfl⟩ := map_eq_ok_iff.1 computed
  refine ⟨column.cellAt, Column.cells_eq_map_cellAt (wellFormed.length_column found), ?_⟩
  intro rows inside
  exact map_eq_ok_iff.2 ⟨_, column_takeRows found rows, rfl⟩

section Derived

variable {compute : Table → Except ε (List α)} {other : Table → Except ε (List β)}

theorem GoesByRows.map (byRows : table.GoesByRows compute) (change : α → β) :
    table.GoesByRows fun table => (compute table).map (List.map change) := by
  intro entries computed
  obtain ⟨sources, first, rfl⟩ := map_eq_ok_iff.1 computed
  obtain ⟨source, rfl, ofRows⟩ := byRows sources first
  refine ⟨change ∘ source, List.map_map, ?_⟩
  intro rows inside
  exact map_eq_ok_iff.2 ⟨_, ofRows rows inside, List.map_map⟩

/-- A change that can fail.  On fewer rows it has fewer occasions to. -/
theorem GoesByRows.mapM (byRows : table.GoesByRows compute) (change : α → Except ε β)
    (elsewhere : β) :
    table.GoesByRows fun table => (compute table).bind (List.mapM change) := by
  intro entries computed
  obtain ⟨sources, first, traversed⟩ := bind_eq_ok_iff.1 computed
  obtain ⟨value, each, rfl⟩ := exists_of_mapM_eq_ok elsewhere traversed
  obtain ⟨source, rfl, ofRows⟩ := byRows sources first
  refine ⟨value ∘ source, List.map_map, ?_⟩
  intro rows inside
  have eachRow : ∀ item ∈ rows.map source, change item = .ok (value item) := by
    rw [List.forall_mem_map]
    intro row member
    exact each _ (List.mem_map_of_mem (List.mem_range.2 (inside row member)))
  rw [← List.map_map]
  exact bind_eq_ok_iff.2 ⟨_, ofRows rows inside, mapM_eq_ok_map eachRow⟩

/-- Entries of two computations, joined row by row. -/
theorem GoesByRows.join {merge : List α → List β → List γ} {join : α → β → γ}
    (byRows : table.GoesByRows compute) (otherByRows : table.GoesByRows other)
    (merges : ∀ (rows : List Nat) (first : Nat → α) (second : Nat → β),
      merge (rows.map first) (rows.map second) = rows.map fun row =>
        join (first row) (second row)) :
    table.GoesByRows fun table => (compute table).bind fun sources =>
      (other table).map (merge sources) := by
  intro entries computed
  obtain ⟨sources, first, merged⟩ := bind_eq_ok_iff.1 computed
  obtain ⟨others, second, rfl⟩ := map_eq_ok_iff.1 merged
  obtain ⟨source, rfl, ofRows⟩ := byRows sources first
  obtain ⟨otherSource, rfl, otherOfRows⟩ := otherByRows others second
  refine ⟨fun row => join (source row) (otherSource row), merges _ _ _, ?_⟩
  intro rows inside
  apply bind_eq_ok_iff.2
  exact ⟨_, ofRows rows inside, map_eq_ok_iff.2 ⟨_, otherOfRows rows inside, merges _ _ _⟩⟩

theorem GoesByRows.mapError (byRows : table.GoesByRows compute) (change : ε → ζ) :
    table.GoesByRows fun table => (compute table).mapError change := by
  intro entries computed
  obtain ⟨source, entriesEq, ofRows⟩ := byRows entries (mapError_eq_ok_iff.1 computed)
  refine ⟨source, entriesEq, ?_⟩
  intro rows inside
  exact mapError_eq_ok_iff.2 (ofRows rows inside)

/-- What is settled before the table is looked at makes no difference. -/
theorem goesByRows_bind (settled : Except ε γ) {compute : γ → Table → Except ε (List α)}
    (each : ∀ value, table.GoesByRows (compute value)) :
    table.GoesByRows fun table => settled.bind fun value => compute value table := by
  cases settled with
  | error error =>
      intro entries computed
      cases computed
  | ok value => exact each value

end Derived

end Table

end TableFlow
