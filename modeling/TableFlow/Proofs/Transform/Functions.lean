import TableFlow.Proofs.Cell.Order
import TableFlow.Proofs.Number.Word
import TableFlow.Proofs.Transform.Numeric
import TableFlow.Transform.Aggregate

/-!
# What the aggregate functions compute

The functions walk through the cells of some rows and keep what they need of those that are not
empty.  For cells of one kind other than floats the outcome can be said without the walk: a number
of cells, a cell in a certain place, a cell that no other one precedes, an exact sum of integers.
Only sums and averages can fail.  They do if a sum leaves the range of the words on the way, even if
the whole sum would lie in it.

Main statement: `AggregateFunction.apply_yields`.
-/

namespace TableFlow

open TableFlow.Number

namespace Cell

/-- A cell that is empty or has a value of a kind. -/
def OfKind (kind : Kind) (cell : Cell) : Prop :=
  cell = .null ∨ cell.kind? = some kind

theorem OfKind.kind?_eq {kind : Kind} {cell : Cell} (ofKind : cell.OfKind kind)
    (filled : cell ≠ .null) : cell.kind? = some kind :=
  ofKind.resolve_left filled

theorem OfKind.kind?_ne_float {kind : Kind} {cell : Cell} (ofKind : cell.OfKind kind)
    (plain : kind ≠ .float) : cell.kind? ≠ some .float := by
  rcases ofKind with rfl | ofCell
  · simp [kind?]
  · simpa [ofCell] using plain

theorem exists_kind? {cell : Cell} (filled : cell ≠ .null) : ∃ kind, cell.kind? = some kind := by
  cases cell with
  | null => exact absurd rfl filled
  | _ => exact ⟨_, rfl⟩

/-- Cells have one kind if all of them that are not empty have the kind of each other. -/
theorem exists_ofKind_iff {cells : List Cell} :
    (∃ kind, ∀ cell ∈ cells, cell.OfKind kind) ↔
      ∀ left ∈ cells, ∀ right ∈ cells, left ≠ .null → right ≠ .null → left.kind? = right.kind? := by
  constructor
  · rintro ⟨kind, ofKind⟩ left inLeft right inRight filledLeft filledRight
    rw [(ofKind left inLeft).kind?_eq filledLeft, (ofKind right inRight).kind?_eq filledRight]
  · intro alike
    by_cases empty : ∀ cell ∈ cells, cell = .null
    · exact ⟨.text, fun cell member => .inl (empty cell member)⟩
    · simp only [not_forall] at empty
      obtain ⟨first, inFirst, filledFirst⟩ := empty
      obtain ⟨kind, ofFirst⟩ := exists_kind? filledFirst
      refine ⟨kind, ?_⟩
      intro cell member
      by_cases filled : cell = .null
      · exact .inl filled
      · exact .inr ((alike cell member first inFirst filled filledFirst).trans ofFirst)

/-- Cells of one kind without floats have one kind other than that of floats. -/
theorem exists_ofKind_of_noFloat {cells : List Cell}
    (one : ∃ kind, ∀ cell ∈ cells, cell.OfKind kind)
    (noFloat : ∀ cell ∈ cells, cell.kind? ≠ some .float) :
    ∃ kind, kind ≠ .float ∧ ∀ cell ∈ cells, cell.OfKind kind := by
  obtain ⟨kind, ofKind⟩ := one
  by_cases plain : kind = .float
  · -- All cells are empty, and an empty cell is of any kind.
    refine ⟨.text, by simp, ?_⟩
    intro cell member
    exact .inl ((ofKind cell member).resolve_right (plain ▸ noFloat cell member))
  · exact ⟨kind, plain, ofKind⟩

/-- What a cell adds to a sum of integers; an empty cell adds nothing. -/
def amount : Cell → Int
  | .integer value => value.toInt
  | _ => 0

theorem exists_integer {cell : Cell} (isInteger : cell.kind? = some .integer) :
    ∃ value, cell = .integer value := by
  cases cell <;> cases isInteger
  exact ⟨_, rfl⟩

@[simp] theorem filled_nil : filled [] = [] :=
  rfl

@[simp] theorem filled_null (cells : List Cell) : filled (.null :: cells) = filled cells :=
  rfl

theorem filled_cons {cell : Cell} (isFilled : cell ≠ .null) (cells : List Cell) :
    filled (cell :: cells) = cell :: filled cells := by
  rw [filled, List.filter_cons_of_pos (by simpa using isNull_eq_false_iff.2 isFilled)]
  rfl

theorem mem_filled {cells : List Cell} {cell : Cell} :
    cell ∈ filled cells ↔ cell ∈ cells ∧ cell ≠ .null := by
  simp [filled, isNull_eq_false_iff]

theorem filled_eq_nil_iff {cells : List Cell} :
    filled cells = [] ↔ ∀ cell ∈ cells, cell = .null := by
  simp [filled, isNull_eq_true_iff]

/-- A sum of cells that goes on from an integer leaves the range of the words somewhere on the
way. -/
def SumOverflows (start : Int) (cells : List Cell) : Prop :=
  ∃ before, before <+: cells ∧ ¬ IsWord (start + (before.map amount).sum)

theorem sumOverflows_nil {start : Int} : SumOverflows start [] ↔ ¬ IsWord start := by
  simp [SumOverflows]

/-- The sum leaves the range at once, or after the first cell. -/
theorem sumOverflows_cons {start : Int} {cell : Cell} {cells : List Cell} :
    SumOverflows start (cell :: cells) ↔
      ¬ IsWord start ∨ SumOverflows (start + cell.amount) cells := by
  simp only [SumOverflows, List.prefix_cons_iff]
  constructor
  · rintro ⟨before, rfl | ⟨later, rfl, isPrefix⟩, outside⟩
    · exact .inl (by simpa using outside)
    · exact .inr ⟨later, isPrefix, by simpa [Int.add_assoc] using outside⟩
  · rintro (outside | ⟨later, isPrefix, outside⟩)
    · exact ⟨[], .inl rfl, by simpa using outside⟩
    · exact ⟨cell :: later, .inr ⟨later, rfl, isPrefix⟩, by simpa [Int.add_assoc] using outside⟩

end Cell

/-- All cells of a column are empty or have a value of a kind. -/
def Column.HoldsOnly (column : Column) (kind : Kind) : Prop :=
  ∀ cell ∈ column.cells, cell.OfKind kind

theorem Column.HoldsOnly.cellAt {column : Column} {kind : Kind} (only : column.HoldsOnly kind)
    (row : Nat) : (column.cellAt row).OfKind kind := by
  cases filled : (column.cellAt row).kind? with
  | none =>
      left
      cases cell : column.cellAt row <;> simp_all [Cell.kind?]
  | some other => exact only _ (cellAt_mem filled)

/-- A column holds cells of one kind only if its table has only such cells under its name. -/
theorem Table.holdsOnly_iff {table : Table} {name : String} {column : Column} {kind : Kind}
    (found : table.column name = .ok column) :
    column.HoldsOnly kind ↔ ∀ row, (table.cellAt row name).OfKind kind := by
  simp only [cellAt_eq_of_column found]
  refine ⟨fun only row => only.cellAt row, ?_⟩
  intro each cell member
  obtain ⟨row, bound, rfl⟩ := List.getElem_of_mem member
  simpa [Column.cellAt, bound] using each row

theorem Table.kind?_ne_float_of_mem {table : Table} {name : String} {column : Column}
    (found : table.column name = .ok column) (noFloat : ¬ table.HoldsFloat name) {cell : Cell}
    (member : cell ∈ column.cells) : cell.kind? ≠ some .float := by
  intro isFloat
  rw [holdsFloat_iff found, List.contains_iff_mem, Column.mem_kinds] at noFloat
  exact noFloat ⟨cell, member, isFloat⟩

theorem Table.kind?_ne_float {table : Table} {name : String} (noFloat : ¬ table.HoldsFloat name)
    (row : Nat) : (table.cellAt row name).kind? ≠ some .float := by
  intro isFloat
  cases cell : table.cellAt row name with
  | float value => exact noFloat ⟨row, value, cell⟩
  | _ => simp [cell, Cell.kind?] at isFloat

namespace Cell

variable {wanted : Ordering} {kind : Kind}

theorem better_mem (best cell : Cell) : better wanted best cell ∈ [best, cell] := by
  rw [better]
  split <;> simp

/-- Neither of two cells comes before the better one. -/
theorem compare?_better_ne (strict : wanted ≠ .eq) (best cell : Cell) :
    ∀ other ∈ [best, cell], other.compare? (better wanted best cell) ≠ some wanted := by
  have irreflexive (cell : Cell) : cell.compare? cell ≠ some wanted := by
    intro compared
    exact compare?_ne_of_eq strict compared compared
  rw [List.forall_mem_cons, List.forall_mem_singleton, better]
  split
  · rename_i isBetter
    exact ⟨compare?_ne_of_eq strict (eq_of_beq isBetter), irreflexive cell⟩
  · rename_i notBetter
    exact ⟨irreflexive best, by simpa using notBetter⟩

/-- No cell met so far comes before the best one. -/
theorem foldl_better (strict : wanted ≠ .eq) (plain : kind ≠ .float) (best : Cell)
    (rest : List Cell) (ofKind : ∀ cell ∈ best :: rest, cell.kind? = some kind) :
    rest.foldl (better wanted) best ∈ best :: rest ∧
      ∀ other ∈ best :: rest, other.compare? (rest.foldl (better wanted) best) ≠ some wanted := by
  induction rest generalizing best with
  | nil => simpa [better] using compare?_better_ne strict best best
  | cons cell rest ih =>
      have firsts : ∀ other ∈ [best, cell], other ∈ best :: cell :: rest := by simp
      have next : better wanted best cell ∈ best :: cell :: rest :=
        firsts _ (better_mem best cell)
      have within : ∀ other ∈ better wanted best cell :: rest, other ∈ best :: cell :: rest := by
        rw [List.forall_mem_cons]
        exact ⟨next, fun other later => List.mem_cons_of_mem best (List.mem_cons_of_mem cell later)⟩
      obtain ⟨member, none⟩ := ih _ fun other inside => ofKind other (within other inside)
      rw [List.foldl_cons]
      refine ⟨within _ member, ?_⟩
      rw [List.forall_mem_cons] at none
      -- What is behind the better one of the first two cells is behind the best one of all.
      have behind (other : Cell) (first : other ∈ [best, cell]) :
          other.compare? (rest.foldl (better wanted) (better wanted best cell)) ≠ some wanted :=
        compare?_ne_trans strict plain (ofKind other (firsts other first)) (ofKind _ next)
          (ofKind _ (within _ member)) (compare?_better_ne strict best cell other first) none.1
      simp only [List.forall_mem_cons]
      exact ⟨behind best (by simp), behind cell (by simp), none.2⟩

theorem foldl_keep_some (best : Cell) (cells : List Cell) :
    cells.foldl (keep wanted) (some best) = some (cells.foldl (better wanted) best) := by
  induction cells generalizing best with
  | nil => rfl
  | cons cell rest ih => rw [List.foldl_cons, keep, ih, List.foldl_cons]

/-- Of cells that are not all empty a cell is kept that none of them beats; empty cells do not
compare. -/
theorem exists_foldl_keep (wanted : Ordering) (strict : wanted ≠ .eq) (plain : kind ≠ .float)
    {cells : List Cell} (ofKind : ∀ cell ∈ cells, cell.OfKind kind) (occupied : filled cells ≠ []) :
    ∃ best, (filled cells).foldl (keep wanted) none = some best ∧ best ∈ cells ∧ best ≠ .null ∧
      ∀ other ∈ cells, other.compare? best ≠ some wanted := by
  have ofFilled : ∀ cell ∈ filled cells, cell.kind? = some kind := by
    intro cell member
    obtain ⟨inCells, isFilled⟩ := mem_filled.1 member
    exact (ofKind cell inCells).kind?_eq isFilled
  cases shape : filled cells with
  | nil => exact absurd shape occupied
  | cons first rest =>
      rw [shape] at ofFilled
      obtain ⟨member, none⟩ := foldl_better strict plain first rest ofFilled
      rw [← shape] at member none
      obtain ⟨inCells, isFilled⟩ := mem_filled.1 member
      refine ⟨_, foldl_keep_some first rest, inCells, isFilled, ?_⟩
      intro other inside
      by_cases empty : other = .null
      · simp [empty]
      · exact none other (mem_filled.2 ⟨inside, empty⟩)

end Cell

/-! ## Functions -/

namespace AggregateFunction

/-- What the result of a function is for the cells of some rows, if they have one kind that is not a
float; for sums and averages it is the integers. -/
inductive Yields (cells : List Cell) : AggregateFunction → Cell → Prop where
  /-- Empty cells only. -/
  | nothing {function : AggregateFunction} (notCount : function ≠ .count)
      (empty : ∀ cell ∈ cells, cell = .null) : Yields cells function .null
  | count : Yields cells .count (.integer (Int64.ofNat (cells.countP fun cell => !cell.isNull)))
  | sum {sum : Int64} (exact : sum.toInt = (cells.map Cell.amount).sum) :
      Yields cells .sum (.integer sum)
  | avg {sum : Int64} (exact : sum.toInt = (cells.map Cell.amount).sum) :
      Yields cells .avg
        (.float (Cell.floatOf sum / Float.ofNat (cells.countP fun cell => !cell.isNull)))
  | min {cell : Cell} (member : cell ∈ cells) (filled : cell ≠ .null)
      (none : ∀ other ∈ cells, other.compare? cell ≠ some .lt) : Yields cells .min cell
  | max {cell : Cell} (member : cell ∈ cells) (filled : cell ≠ .null)
      (none : ∀ other ∈ cells, other.compare? cell ≠ some .gt) : Yields cells .max cell
  | first {before after : List Cell} {cell : Cell} (place : cells = before ++ cell :: after)
      (filled : cell ≠ .null) (empty : ∀ earlier ∈ before, earlier = .null) :
      Yields cells .first cell
  | last {before after : List Cell} {cell : Cell} (place : cells = before ++ cell :: after)
      (filled : cell ≠ .null) (empty : ∀ later ∈ after, later = .null) : Yields cells .last cell

variable {function : AggregateFunction} {column : Column} {kind : Kind} {cells : List Cell}

/-- A walk in which each cell that is not empty changes a field in a certain way, and empty cells
leave the state as it is. -/
theorem exists_foldlM_update (field : AggregateState → α) (step : α → Cell → α)
    (each : ∀ cell ∈ cells, cell ≠ .null → ∀ state : AggregateState, ∃ next,
      AggregateState.update function state cell = .ok next ∧ field next = step (field state) cell)
    (state : AggregateState) :
    ∃ final, cells.foldlM (AggregateState.update function) state = .ok final ∧
      field final = (Cell.filled cells).foldl step (field state) := by
  induction cells generalizing state with
  | nil => exact ⟨state, rfl, rfl⟩
  | cons cell rest ih =>
      rw [List.forall_mem_cons] at each
      rw [List.foldlM_cons]
      by_cases empty : cell = .null
      · rw [empty, Cell.filled_null]
        exact ih each.2 state
      · obtain ⟨next, updated, nextEq⟩ := each.1 empty state
        rw [updated, Cell.filled_cons empty, List.foldl_cons, ← nextEq]
        exact ih each.2 next

/-- The list form of a function that reads its result off one field. -/
theorem reduce_eq_of_field (function : AggregateFunction) (field : AggregateState → α)
    (step : α → Cell → α) (result : α → Cell)
    (finals : ∀ state, AggregateState.finalize function state = result (field state))
    (each : ∀ cell ≠ Cell.null, ∀ state : AggregateState, ∃ next,
      AggregateState.update function state cell = .ok next ∧ field next = step (field state) cell)
    (cells : List Cell) :
    function.reduce cells = .ok (result ((Cell.filled cells).foldl step (field {}))) := by
  obtain ⟨final, walked, finalEq⟩ :=
    exists_foldlM_update field step (fun cell (_ : cell ∈ cells) => each cell) {}
  rw [reduce, walked, ← finalEq, ← finals]
  rfl

theorem not_isNull {cell : Cell} (filled : cell ≠ .null) : ¬ cell.isNull = true :=
  fun isNull => filled (Cell.isNull_eq_true_iff.1 isNull)

theorem reduce_count (cells : List Cell) :
    reduce .count cells = .ok (.integer (Int64.ofNat (Cell.filled cells).length)) := by
  rw [reduce_eq_of_field .count AggregateState.count (fun count _ => count + 1)
    (fun count => .integer (Int64.ofNat count)) (fun _ => rfl)
    (fun _ filled _ => ⟨_, if_neg (not_isNull filled), rfl⟩)]
  simp

theorem reduce_min (cells : List Cell) :
    reduce .min cells = .ok (((Cell.filled cells).foldl (Cell.keep .lt) none).getD .null) :=
  reduce_eq_of_field .min AggregateState.least (Cell.keep .lt) (Option.getD · .null) (fun _ => rfl)
    (fun _ filled _ => ⟨_, if_neg (not_isNull filled), rfl⟩) cells

theorem reduce_max (cells : List Cell) :
    reduce .max cells = .ok (((Cell.filled cells).foldl (Cell.keep .gt) none).getD .null) :=
  reduce_eq_of_field .max AggregateState.greatest (Cell.keep .gt) (Option.getD · .null)
    (fun _ => rfl)
    (fun _ filled _ => ⟨_, if_neg (not_isNull filled), rfl⟩) cells

theorem reduce_first (cells : List Cell) :
    reduce .first cells = .ok ((Cell.filled cells).head?.getD .null) := by
  rw [reduce_eq_of_field .first AggregateState.first (fun first cell => first.or (some cell))
    (Option.getD · .null) (fun _ => rfl) (fun _ filled _ => ⟨_, if_neg (not_isNull filled), rfl⟩)]
  have stays (first : Cell) (rest : List Cell) :
      rest.foldl (fun first cell => first.or (some cell)) (some first) = some first := by
    induction rest with
    | nil => rfl
    | cons cell rest ih => exact ih
  cases Cell.filled cells with
  | nil => rfl
  | cons first rest => exact congrArg (fun kept => Except.ok (kept.getD .null)) (stays first rest)

theorem reduce_last (cells : List Cell) :
    reduce .last cells = .ok ((Cell.filled cells).getLast?.getD .null) := by
  rw [reduce_eq_of_field .last AggregateState.last (fun _ cell => some cell)
    (Option.getD · .null) (fun _ => rfl) (fun _ filled _ => ⟨_, if_neg (not_isNull filled), rfl⟩)]
  have latest (last : Option Cell) (rest : List Cell) :
      rest.foldl (fun _ cell => some cell) last = rest.getLast?.or last := by
    induction rest generalizing last with
    | nil => rfl
    | cons cell rest ih => rw [List.foldl_cons, ih, List.getLast?_cons]; cases rest.getLast? <;> rfl
  rw [latest, Option.or_none]

/-- Of empty cells every function makes an empty one, but for the count. -/
theorem reduce_of_empty (notCount : function ≠ .count) (empty : ∀ cell ∈ cells, cell = .null) :
    function.reduce cells = .ok .null := by
  obtain ⟨final, walked, rfl⟩ := exists_foldlM_update id (fun state _ => state)
    (fun cell member filled => absurd (empty cell member) filled) {}
  rw [reduce, walked, Cell.filled_eq_nil_iff.2 empty]
  cases function with
  | count => exact absurd rfl notCount
  | _ => rfl

/-- Functions that add nothing up do not fail. -/
theorem exists_reduce_of_plain (adds : ¬ (function = .sum ∨ function = .avg)) (cells : List Cell) :
    ∃ result, function.reduce cells = .ok result := by
  cases function with
  | sum => exact absurd (.inl rfl) adds
  | avg => exact absurd (.inr rfl) adds
  | count => exact ⟨_, reduce_count cells⟩
  | min => exact ⟨_, reduce_min cells⟩
  | max => exact ⟨_, reduce_max cells⟩
  | first => exact ⟨_, reduce_first cells⟩
  | last => exact ⟨_, reduce_last cells⟩

/-- Without integers nothing can overflow. -/
theorem exists_reduce_of_noInteger (adds : function = .sum ∨ function = .avg)
    (noInteger : ∀ cell ∈ cells, cell.kind? ≠ some .integer) :
    ∃ result, function.reduce cells = .ok result := by
  have each (cell : Cell) (member : cell ∈ cells) (filled : cell ≠ .null) (state : AggregateState) :
      ∃ next, AggregateState.update function state cell = .ok next ∧ () = () := by
    rw [AggregateState.update, if_neg (not_isNull filled)]
    cases cell with
    | integer value => exact absurd rfl (noInteger _ member)
    | _ => rcases adds with rfl | rfl <;> exact ⟨_, rfl, rfl⟩
  obtain ⟨final, walked, -⟩ := exists_foldlM_update (fun _ => ()) (fun _ _ => ()) each {}
  exact ⟨_, by rw [reduce, walked]; rfl⟩

end AggregateFunction

namespace AggregateState

/-- A state that has met integers only: how many, and what they come to. -/
structure SumsTo (state : AggregateState) (count : Nat) (sum : Int) : Prop where
  noFloat : state.floatSum = none
  count_eq : state.count = count
  sum_eq : (state.integerSum.getD 0).toInt = sum
  started : state.integerSum = none ↔ count = 0

variable {function : AggregateFunction} {state : AggregateState} {count : Nat} {sum : Int}

theorem sumsTo_empty : SumsTo {} 0 0 where
  noFloat := rfl
  count_eq := rfl
  sum_eq := rfl
  started := ⟨fun _ => rfl, fun _ => rfl⟩

/-- One more integer is added exactly, or the sum leaves the range of the words and fails. -/
theorem SumsTo.update (sums : state.SumsTo count sum)
    (adds : function = .sum ∨ function = .avg) (value : Int64) :
    (IsWord (sum + value.toInt) ∧ ∃ next,
      AggregateState.update function state (.integer value) = .ok next ∧
        next.SumsTo (count + 1) (sum + value.toInt)) ∨
    (¬ IsWord (sum + value.toInt) ∧
      AggregateState.update function state (.integer value) =
        .error (.failed (.sumOverflow function.name))) := by
  have updated : AggregateState.update function state (.integer value) =
      addNumber function { state with count := state.count + 1 } (.integer value) := by
    rcases adds with rfl | rfl <;> rfl
  rw [updated]
  simp only [addNumber, sums.noFloat, sums.sum_eq]
  cases fits : word? (sum + value.toInt) with
  | none => exact .inr ⟨word?_eq_none_iff.1 fits, rfl⟩
  | some next =>
      refine .inl ⟨?_, _, rfl, ?_⟩
      · rw [← toInt_of_word? fits]
        exact isWord_toInt next
      · exact
          { noFloat := rfl
            count_eq := congrArg (· + 1) sums.count_eq
            sum_eq := toInt_of_word? fits
            started := by simp }

/-- A sum of integers is exact, or it leaves the range of the words on the way and fails. -/
theorem SumsTo.foldlM_update (sums : state.SumsTo count sum)
    (adds : function = .sum ∨ function = .avg) {cells : List Cell}
    (integers : ∀ cell ∈ cells, cell.OfKind .integer) :
    (¬ Cell.SumOverflows sum cells ∧ ∃ final,
      cells.foldlM (AggregateState.update function) state = .ok final ∧
        final.SumsTo (count + (Cell.filled cells).length) (sum + (cells.map Cell.amount).sum)) ∨
    (Cell.SumOverflows sum cells ∧
      cells.foldlM (AggregateState.update function) state =
        .error (.failed (.sumOverflow function.name))) := by
  have isWord : IsWord sum := sums.sum_eq ▸ isWord_toInt _
  induction cells generalizing state count sum with
  | nil =>
      refine .inl ⟨?_, state, rfl, by simpa using sums⟩
      simpa [Cell.sumOverflows_nil] using isWord
  | cons cell rest ih =>
      rw [List.forall_mem_cons] at integers
      simp only [Cell.sumOverflows_cons, isWord, not_true_eq_false, false_or, List.map_cons,
        List.sum_cons, ← Int.add_assoc, List.foldlM_cons]
      rcases integers.1 with rfl | isInteger
      · have skipped : AggregateState.update function state .null = .ok state := rfl
        simpa [skipped, bind, Except.bind, Cell.amount] using ih sums integers.2 isWord
      · obtain ⟨value, rfl⟩ := Cell.exists_integer isInteger
        rw [Cell.filled_cons (by simp), List.length_cons, Nat.add_comm _ 1, ← Nat.add_assoc]
        rcases sums.update adds value with ⟨fits, next, updated, nextSums⟩ | ⟨outside, failed⟩
        · rw [updated]
          exact ih nextSums integers.2 fits
        · rw [failed]
          exact .inr ⟨⟨[], List.nil_prefix, by simpa [Cell.amount] using outside⟩, rfl⟩

end AggregateState

namespace AggregateFunction

variable {function : AggregateFunction} {column : Column} {kind : Kind} {cells : List Cell}

/-- The failures of a function are the overflows of sums. -/
theorem reduce_cases (ofKind : ∀ cell ∈ cells, cell.OfKind kind) (function : AggregateFunction) :
    (¬ ((function = .sum ∨ function = .avg) ∧ kind = .integer ∧ Cell.SumOverflows 0 cells) ∧
      ∃ result, function.reduce cells = .ok result) ∨
    (((function = .sum ∨ function = .avg) ∧ kind = .integer ∧ Cell.SumOverflows 0 cells) ∧
      function.reduce cells = .error (.failed (.sumOverflow function.name))) := by
  by_cases adds : function = .sum ∨ function = .avg
  · by_cases isInteger : kind = .integer
    · subst isInteger
      rcases AggregateState.sumsTo_empty.foldlM_update adds ofKind with
        ⟨stays, final, walked, -⟩ | ⟨overflows, failed⟩
      · exact .inl ⟨fun all => stays all.2.2, _, by rw [reduce, walked]; rfl⟩
      · exact .inr ⟨⟨adds, rfl, overflows⟩, by rw [reduce, failed]; rfl⟩
    · have noInteger : ∀ cell ∈ cells, cell.kind? ≠ some .integer := by
        intro cell member ofInteger
        rcases ofKind cell member with rfl | ofCell
        · cases ofInteger
        · exact isInteger (Option.some.inj (ofCell.symm.trans ofInteger))
      exact .inl ⟨fun all => isInteger all.2.1, exists_reduce_of_noInteger adds noInteger⟩
  · exact .inl ⟨fun all => adds all.1, exists_reduce_of_plain adds _⟩

theorem yields_first (occupied : Cell.filled cells ≠ []) :
    Yields cells .first ((Cell.filled cells).head?.getD .null) := by
  rw [Cell.filled, List.head?_filter]
  cases found : cells.find? fun cell => !cell.isNull with
  | none =>
      rw [List.find?_eq_none] at found
      exact absurd (List.filter_eq_nil_iff.2 found) occupied
  | some cell =>
      obtain ⟨filled, before, after, place, empty⟩ := List.find?_eq_some_iff_append.1 found
      exact .first place (by simpa [Cell.isNull_eq_false_iff] using filled)
        (by simpa [Cell.isNull_eq_true_iff] using empty)

theorem yields_last (occupied : Cell.filled cells ≠ []) :
    Yields cells .last ((Cell.filled cells).getLast?.getD .null) := by
  rw [Cell.filled, List.getLast?_filter]
  cases found : cells.reverse.find? fun cell => !cell.isNull with
  | none =>
      rw [List.find?_eq_none] at found
      have empty : ∀ cell ∈ cells, ¬ (!cell.isNull) = true := by simpa using found
      exact absurd (List.filter_eq_nil_iff.2 empty) occupied
  | some cell =>
      obtain ⟨filled, after, before, place, empty⟩ := List.find?_eq_some_iff_append.1 found
      have placed : cells = before.reverse ++ cell :: after.reverse := by
        rw [← List.reverse_reverse cells, place]
        simp
      exact .last placed (by simpa [Cell.isNull_eq_false_iff] using filled)
        (by simpa [Cell.isNull_eq_true_iff] using empty)

/-- What sums and averages make of integers. -/
theorem yields_of_adds (integers : ∀ cell ∈ cells, cell.OfKind .integer)
    (adds : function = .sum ∨ function = .avg) {result : Cell}
    (reduced : function.reduce cells = .ok result) : Yields cells function result := by
  rcases AggregateState.sumsTo_empty.foldlM_update adds integers with
    ⟨-, final, walked, sums⟩ | ⟨-, failed⟩
  · rw [Nat.zero_add, Int.zero_add] at sums
    rw [reduce, walked] at reduced
    cases reduced
    cases summed : final.integerSum with
    | none =>
        have empty := Cell.filled_eq_nil_iff.1 (List.length_eq_zero_iff.1 (sums.started.1 summed))
        have notCount : function ≠ .count := by
          rintro rfl
          simp at adds
        have finalEq : final.finalize function = .null := by
          rcases adds with rfl | rfl <;>
            simp [AggregateState.finalize, AggregateState.sum?, summed, sums.noFloat]
        rw [finalEq]
        exact .nothing notCount empty
    | some sum =>
        have sumEq : sum.toInt = (cells.map Cell.amount).sum := by
          simpa [summed] using sums.sum_eq
        have counted : final.count = cells.countP fun cell => !cell.isNull :=
          sums.count_eq.trans List.countP_eq_length_filter.symm
        have positive : 0 < final.count := by
          rw [sums.count_eq, Nat.pos_iff_ne_zero, ne_eq, ← sums.started, summed]
          exact Option.some_ne_none sum
        rcases adds with rfl | rfl
        · have finalEq : final.finalize .sum = .integer sum := by
            simp [AggregateState.finalize, AggregateState.sum?, summed, sums.noFloat]
          rw [finalEq]
          exact .sum sumEq
        · have finalEq : final.finalize .avg =
              .float (Cell.floatOf sum / Float.ofNat final.count) := by
            simp [AggregateState.finalize, AggregateState.sum?, summed, sums.noFloat, positive,
              Cell.number?]
          rw [finalEq, counted]
          exact .avg sumEq
  · rw [reduce, failed] at reduced
    cases reduced

/-- What a function makes of cells of one kind. -/
theorem yields_of_reduce (plain : kind ≠ .float) (ofKind : ∀ cell ∈ cells, cell.OfKind kind)
    (summable : function = .sum ∨ function = .avg → kind = .integer) {result : Cell}
    (reduced : function.reduce cells = .ok result) : Yields cells function result := by
  by_cases empty : Cell.filled cells = [] ∧ function ≠ .count
  · have none := Cell.filled_eq_nil_iff.1 empty.1
    rw [reduce_of_empty empty.2 none] at reduced
    cases reduced
    exact .nothing empty.2 none
  · cases function with
    | count =>
        rw [reduce_count] at reduced
        cases reduced
        rw [Cell.filled, ← List.countP_eq_length_filter]
        exact .count
    | sum => exact yields_of_adds (summable (.inl rfl) ▸ ofKind) (.inl rfl) reduced
    | avg => exact yields_of_adds (summable (.inr rfl) ▸ ofKind) (.inr rfl) reduced
    | min =>
        have occupied : Cell.filled cells ≠ [] := by simpa using empty
        obtain ⟨best, kept, member, filled, none⟩ :=
          Cell.exists_foldl_keep .lt (by simp) plain ofKind occupied
        rw [reduce_min, kept] at reduced
        cases reduced
        exact .min member filled none
    | max =>
        have occupied : Cell.filled cells ≠ [] := by simpa using empty
        obtain ⟨best, kept, member, filled, none⟩ :=
          Cell.exists_foldl_keep .gt (by simp) plain ofKind occupied
        rw [reduce_max, kept] at reduced
        cases reduced
        exact .max member filled none
    | first =>
        rw [reduce_first] at reduced
        cases reduced
        exact yields_first (by simpa using empty)
    | last =>
        rw [reduce_last] at reduced
        cases reduced
        exact yields_last (by simpa using empty)

/-- The functions on the cells of some rows of a column, if these have one kind that is not a float.
Sums and averages of integers fail if a sum leaves the range of the words on the way, and nothing
else fails. -/
theorem apply_yields (column : Column) (kind : Kind) (plain : kind ≠ .float)
    (only : column.HoldsOnly kind) (function : AggregateFunction) (rows : List Nat) :
    ((∃ error, function.apply column rows = .error error) ↔
      (function = .sum ∨ function = .avg) ∧ kind = .integer ∧
        Cell.SumOverflows 0 (rows.map column.cellAt)) ∧
    (∀ error, function.apply column rows = .error error →
      error = .failed (.sumOverflow function.name)) ∧
    ((∀ row ∈ rows, column.cellAt row = .null) → function ≠ .count →
      function.apply column rows = .ok .null) ∧
    ((function = .sum ∨ function = .avg → kind = .integer) →
      ∀ result, function.apply column rows = .ok result →
        Yields (rows.map column.cellAt) function result) := by
  have ofKind : ∀ cell ∈ rows.map column.cellAt, cell.OfKind kind := by
    rw [List.forall_mem_map]
    intro row _
    exact only.cellAt row
  rw [apply]
  refine ⟨?_, ?_, ?_, ?_⟩
  · rcases reduce_cases ofKind function with ⟨stays, result, reduced⟩ | ⟨overflows, failed⟩
    · simpa only [reduced, reduceCtorEq, exists_false, false_iff] using stays
    · exact ⟨fun _ => overflows, fun _ => ⟨_, failed⟩⟩
  · intro error failed
    rcases reduce_cases ofKind function with ⟨-, result, reduced⟩ | ⟨-, overflowed⟩
    · rw [reduced] at failed
      cases failed
    · rw [overflowed] at failed
      exact (Except.error.inj failed).symm
  · intro empty notCount
    exact reduce_of_empty notCount (by simpa using empty)
  · intro summable result reduced
    exact yields_of_reduce plain ofKind summable reduced

/-- An integer at the upper end of the words, a gap, and integers that lead beyond it and back. -/
def balances : Column :=
  { name := "balance"
    cells := [.integer 9223372036854775807, .null, .integer 1, .integer (-9223372036854775807)] }

/-- From the first row on the sum of the balances overflows, although the whole sum would be a word;
from the last one on it is exact. -/
theorem apply_yields_balances :
    balances.HoldsOnly .integer ∧
      AggregateFunction.sum.apply balances [0, 1, 2, 3] = .error (.failed (.sumOverflow "sum")) ∧
      Cell.SumOverflows 0 ([0, 1, 2, 3].map balances.cellAt) ∧
      AggregateFunction.sum.apply balances [3, 2, 1, 0] = .ok (.integer 1) ∧
      Yields ([3, 2, 1, 0].map balances.cellAt) .sum (.integer 1) := by
  have only : balances.HoldsOnly .integer := by
    simp [Column.HoldsOnly, balances, Cell.OfKind, Cell.kind?]
  have failed : AggregateFunction.sum.apply balances [0, 1, 2, 3] =
      .error (.failed (.sumOverflow "sum")) := rfl
  have summed : AggregateFunction.sum.apply balances [3, 2, 1, 0] = .ok (.integer 1) := rfl
  have downwards := apply_yields balances .integer (by simp) only .sum [0, 1, 2, 3]
  have upwards := apply_yields balances .integer (by simp) only .sum [3, 2, 1, 0]
  exact ⟨only, failed, (downwards.1.1 ⟨_, failed⟩).2.2, summed,
    upwards.2.2.2 (fun _ => rfl) _ summed⟩

end AggregateFunction

end TableFlow
