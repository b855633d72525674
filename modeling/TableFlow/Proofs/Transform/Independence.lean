import TableFlow.Proofs.Formula.Printer
import TableFlow.Proofs.Transform.RowWise

/-!
# Formulas that do not read each other's columns

A formula reads the columns of its tree and no others.  So a column written under another name does
not change its cells, nor whether it has any.  Two formulas neither of which reads what the other
one writes have the same cells in both orders, and their columns stand under the same names.  Only
the places of these columns tell which of them came first.

Main statement: `Derive.apply_commutes`.
-/

namespace TableFlow

/-- Two tables have the same rows and the same columns under some names. -/
structure Table.Shares (table other : Table) (names : List String) : Prop where
  rowCount_eq : table.rowCount = other.rowCount
  column?_eq : ∀ name ∈ names, table.column? name = other.column? name

variable {table other output : Table} {names : List String}

/-- What is written under other names leaves the columns of some names shared. -/
theorem Table.Frames.shares {written : List String} (frames : table.Frames output written)
    (apart : ∀ name ∈ names, name ∉ written) : output.Shares table names where
  rowCount_eq := frames.rowCount_eq
  column?_eq := by
    intro name member
    exact frames.column?_eq name (apart name member)

namespace Formula

/-- The value of a tree is settled by the cells of its columns. -/
theorem Expr.eval_congr {expr : Expr} {row others : String → Cell}
    (agree : ∀ name ∈ expr.columns, row name = others name) : expr.eval row = expr.eval others := by
  induction expr with
  | literal cell => rfl
  | column name => exact congrArg Except.ok (agree name (mem_columns_column.2 rfl))
  | binary op left right leftIh rightIh =>
      have leftEq := leftIh fun name member => agree name (mem_columns_binary.2 (.inl member))
      have rightEq := rightIh fun name member => agree name (mem_columns_binary.2 (.inr member))
      rw [eval, eval, leftEq, rightEq]
  | unary op operand ih =>
      have operandEq := ih fun name member => agree name (mem_columns_unary.2 member)
      rw [eval, eval, operandEq]

theorem bindColumns_congr (agree : ∀ name ∈ names, table.column? name = other.column? name) :
    bindColumns table names = bindColumns other names := by
  induction names with
  | nil => rfl
  | cons name rest ih =>
      rw [List.forall_mem_cons] at agree
      have known : table.hasColumn name = other.hasColumn name := by
        rw [Bool.eq_iff_iff, Table.hasColumn_iff, Table.hasColumn_iff, Table.mem_names_iff,
          Table.mem_names_iff, agree.1]
      rw [bindColumns, bindColumns, known, ih agree.2]

theorem Expr.evalTable_congr {expr : Expr} (shares : table.Shares other expr.columns) :
    expr.evalTable table = expr.evalTable other := by
  have sameValue (row : Nat) : expr.eval (table.cellAt row) = expr.eval (other.cellAt row) := by
    apply eval_congr
    intro name member
    rw [Table.cellAt, Table.cellAt, shares.column?_eq name member]
  rw [evalTable, evalTable, bindColumns_congr shares.column?_eq, shares.rowCount_eq]
  simp only [sameValue]

end Formula

/-- A formula has the same outcome on all tables that share the columns of some names. -/
def ReadsOnly (source : String) (names : List String) : Prop :=
  ∀ table other : Table, table.Shares other names →
    formulaCells source table = formulaCells source other

/-- A formula reads the columns of its tree. -/
theorem readsOnly_of_parse {source : String} {tree : Formula.Expr}
    (parsed : Formula.parse (Formula.clean source) = .ok tree) : ReadsOnly source tree.columns := by
  intro table other shares
  simp only [formulaCells, Formula.evaluate, parsed, Formula.Expr.evalTable_congr shares]

theorem Table.withColumns_pair (table : Table) (first second : Column) :
    table.withColumns [first, second] =
      (table.withColumn first).bind fun next => next.withColumn second := by
  rw [withColumns]
  cases table.withColumn first with
  | error error => rfl
  | ok next =>
      simp only [withColumns, Except.bind]
      cases next.withColumn second <;> rfl

theorem Table.column?_of_withColumns_pair {first second : Column}
    (added : table.withColumns [first, second] = .ok output) (name : String) :
    output.column? name =
      if second.name = name then some second
      else if first.name = name then some first else table.column? name := by
  rw [withColumns_pair] at added
  obtain ⟨next, addedFirst, addedSecond⟩ := bind_eq_ok_iff.1 added
  rw [column?_of_withColumn addedSecond, column?_of_withColumn addedFirst]

namespace Derive

variable {first second : Derive}

theorem apply_eq_ok_iff (derive : Derive) :
    derive.apply table = .ok output ↔
      ∃ cells, formulaCells derive.formula table = .ok cells ∧
        table.withColumn ⟨derive.newColumn, cells⟩ = .ok output := by
  rw [apply_eq_withComputed]
  exact bind_eq_ok_iff

/-- A formula that does not read the column written before it is evaluated on the table as it
was. -/
theorem apply_bind_apply_eq_ok_iff (wellFormed : table.WellFormed)
    (reads : ReadsOnly second.formula names) (apart : first.newColumn ∉ names) :
    (first.apply table).bind second.apply = .ok output ↔
      ∃ firstCells secondCells, formulaCells first.formula table = .ok firstCells ∧
        formulaCells second.formula table = .ok secondCells ∧
        table.withColumns [⟨first.newColumn, firstCells⟩, ⟨second.newColumn, secondCells⟩] =
          .ok output := by
  have unread {middle : Table} {cells : List Cell}
      (computed : formulaCells first.formula table = .ok cells)
      (added : table.withColumn ⟨first.newColumn, cells⟩ = .ok middle) :
      formulaCells second.formula middle = formulaCells second.formula table := by
    have fits := (goesByRows_formulaCells first.formula).length_eq computed
    apply reads
    apply (wellFormed.frames_withColumn fits added).shares
    intro name member written
    rw [List.mem_singleton.1 written] at member
    exact apart member
  simp only [bind_eq_ok_iff, apply_eq_ok_iff, Table.withColumns_pair]
  constructor
  · rintro ⟨middle, ⟨firstCells, computed, added⟩, secondCells, later, addedLater⟩
    rw [unread computed added] at later
    exact ⟨firstCells, secondCells, computed, later, middle, added, addedLater⟩
  · rintro ⟨firstCells, secondCells, computed, later, middle, added, addedLater⟩
    rw [← unread computed added] at later
    exact ⟨middle, ⟨firstCells, computed, added⟩, secondCells, later, addedLater⟩

/-- Columns computed by formulas fit into the table. -/
theorem fit_of_formulaCells {firstCells secondCells : List Cell}
    (computed : formulaCells first.formula table = .ok firstCells)
    (later : formulaCells second.formula table = .ok secondCells) :
    ∀ column ∈ [Column.mk first.newColumn firstCells, ⟨second.newColumn, secondCells⟩],
      column.cells.length = table.rowCount := by
  have firstLength := (goesByRows_formulaCells first.formula).length_eq computed
  have secondLength := (goesByRows_formulaCells second.formula).length_eq later
  simp [firstLength, secondLength]

/-- One formula after the other succeeds exactly if both have cells on the table as it was. -/
theorem exists_apply_bind_apply_iff (wellFormed : table.WellFormed)
    (reads : ReadsOnly second.formula names) (apart : first.newColumn ∉ names) :
    (∃ output, (first.apply table).bind second.apply = .ok output) ↔
      (∃ cells, formulaCells first.formula table = .ok cells) ∧
        ∃ cells, formulaCells second.formula table = .ok cells := by
  simp only [apply_bind_apply_eq_ok_iff wellFormed reads apart]
  constructor
  · rintro ⟨output, firstCells, secondCells, computed, later, -⟩
    exact ⟨⟨firstCells, computed⟩, secondCells, later⟩
  · rintro ⟨⟨firstCells, computed⟩, secondCells, later⟩
    obtain ⟨output, added⟩ := wellFormed.exists_withColumns _ (fit_of_formulaCells computed later)
    exact ⟨output, firstCells, secondCells, computed, later, added⟩

/-- Formulas read only the columns of their trees.  If neither of two formulas reads the column that
the other one writes, they can be applied in both orders or in none, and both orders give the same
rows and the same columns under all names. -/
theorem apply_commutes {firstTree secondTree : Formula.Expr}
    (firstParsed : Formula.parse (Formula.clean first.formula) = .ok firstTree)
    (secondParsed : Formula.parse (Formula.clean second.formula) = .ok secondTree)
    (different : first.newColumn ≠ second.newColumn)
    (firstApart : second.newColumn ∉ firstTree.columns)
    (secondApart : first.newColumn ∉ secondTree.columns) (table : Table)
    (wellFormed : table.WellFormed) :
    ReadsOnly first.formula firstTree.columns ∧ ReadsOnly second.formula secondTree.columns ∧
      ((∃ output, (first.apply table).bind second.apply = .ok output) ↔
        ∃ output, (second.apply table).bind first.apply = .ok output) ∧
      ∀ output swapped, (first.apply table).bind second.apply = .ok output →
        (second.apply table).bind first.apply = .ok swapped →
        output.rowCount = swapped.rowCount ∧ (∀ name, name ∈ output.names ↔ name ∈ swapped.names) ∧
          ∀ name, output.column? name = swapped.column? name := by
  have firstReads := readsOnly_of_parse firstParsed
  have secondReads := readsOnly_of_parse secondParsed
  refine ⟨firstReads, secondReads, ?_, ?_⟩
  · rw [exists_apply_bind_apply_iff wellFormed secondReads secondApart,
      exists_apply_bind_apply_iff wellFormed firstReads firstApart, and_comm]
  · intro output swapped applied appliedSwapped
    obtain ⟨firstCells, secondCells, computed, later, added⟩ :=
      (apply_bind_apply_eq_ok_iff wellFormed secondReads secondApart).1 applied
    obtain ⟨secondCells, firstCells, laterSwapped, computedSwapped, addedSwapped⟩ :=
      (apply_bind_apply_eq_ok_iff wellFormed firstReads firstApart).1 appliedSwapped
    cases computed.symm.trans computedSwapped
    cases later.symm.trans laterSwapped
    have framed := wellFormed.frames_withColumns (fit_of_formulaCells computed later) added
    have framedSwapped :=
      wellFormed.frames_withColumns (fit_of_formulaCells later computed) addedSwapped
    have columns (name : String) : output.column? name = swapped.column? name := by
      rw [Table.column?_of_withColumns_pair added, Table.column?_of_withColumns_pair addedSwapped]
      by_cases isFirst : first.newColumn = name
      · have notSecond : second.newColumn ≠ name := fun isSecond =>
          different (isFirst.trans isSecond.symm)
        rw [if_neg notSecond, if_pos isFirst, if_pos isFirst]
      · rw [if_neg isFirst, if_neg isFirst]
    refine ⟨framed.rowCount_eq.trans framedSwapped.rowCount_eq.symm, ?_, columns⟩
    intro name
    rw [Table.mem_names_iff, Table.mem_names_iff, columns]

/-- A shop with two articles; how many there are of the second is not known. -/
def shelf : Table :=
  { columns :=
      [⟨"on hand", [.integer 5, .null]⟩, ⟨"sold", [.integer 3, .integer 1]⟩,
       ⟨"price", [.integer 2, .float 0.5]⟩]
    rowCount := 2 }

/-- How many are left. -/
def remaining : Derive :=
  { newColumn := "left", formula := "[on hand] - sold" }

/-- What was earned. -/
def earned : Derive :=
  { newColumn := "earned", formula := " price * sold" }

/-- The tree of what is left. -/
def remainingTree : Formula.Expr :=
  .binary .sub (.column "on hand") (.column "sold")

/-- The tree of what was earned. -/
def earnedTree : Formula.Expr :=
  .binary .mul (.column "price") (.column "sold")

theorem parse_remaining :
    Formula.parse (Formula.clean remaining.formula) = .ok remainingTree := by
  have lexed : Formula.tokenize (Formula.clean remaining.formula) =
      .ok ([.identifier "on hand", .minus, .identifier "sold"] ++ [.eof]) := by
    decide +kernel
  have onHand : Formula.Derives (.chain .sum) [.identifier "on hand"] (.column "on hand") :=
    .first (.first (.unsigned (.atom (.identifier _))))
  have sold : Formula.Derives (.chain .product) [.identifier "sold"] (.column "sold") :=
    .first (.unsigned (.atom (.identifier _)))
  exact (Formula.parse_of_tokenize lexed).2
    (.first (.first (.plain (.sum (.next onHand .sub sold)))))

theorem parse_earned : Formula.parse (Formula.clean earned.formula) = .ok earnedTree := by
  have lexed : Formula.tokenize (Formula.clean earned.formula) =
      .ok ([.identifier "price", .star, .identifier "sold"] ++ [.eof]) := by
    decide +kernel
  have price : Formula.Derives (.chain .product) [.identifier "price"] (.column "price") :=
    .first (.unsigned (.atom (.identifier _)))
  have sold : Formula.Derives .sign [.identifier "sold"] (.column "sold") :=
    .unsigned (.atom (.identifier _))
  exact (Formula.parse_of_tokenize lexed).2
    (.first (.first (.plain (.sum (.first (.next price .mul sold))))))

/-- Both formulas read what was sold, and neither reads the column of the other one. -/
theorem apply_commutes_shelf :
    shelf.WellFormed ∧ remaining.newColumn ≠ earned.newColumn ∧
      earned.newColumn ∉ remainingTree.columns ∧ remaining.newColumn ∉ earnedTree.columns ∧
      ∃ output swapped, (remaining.apply shelf).bind earned.apply = .ok output ∧
        (earned.apply shelf).bind remaining.apply = .ok swapped ∧
        output.names = ["on hand", "sold", "price", "left", "earned"] ∧
        swapped.names = ["on hand", "sold", "price", "earned", "left"] ∧
        ∀ name, output.column? name = swapped.column? name := by
  have wellFormed : shelf.WellFormed := ⟨by decide, by decide⟩
  have different : remaining.newColumn ≠ earned.newColumn := by decide
  have remainingApart : earned.newColumn ∉ remainingTree.columns := by decide
  have earnedApart : remaining.newColumn ∉ earnedTree.columns := by decide
  obtain ⟨remainingReads, earnedReads, -, alike⟩ :=
    apply_commutes parse_remaining parse_earned different remainingApart earnedApart shelf
      wellFormed
  have remains : formulaCells remaining.formula shelf = .ok [.integer 2, .null] := by
    simp only [formulaCells, Formula.evaluate, parse_remaining]
    rfl
  have earns : formulaCells earned.formula shelf = .ok [.integer 6, .float 0.5] := by
    simp only [formulaCells, Formula.evaluate, parse_earned]
    rfl
  have applied := (apply_bind_apply_eq_ok_iff wellFormed earnedReads earnedApart).2
    ⟨_, _, remains, earns, rfl⟩
  have appliedSwapped := (apply_bind_apply_eq_ok_iff wellFormed remainingReads remainingApart).2
    ⟨_, _, earns, remains, rfl⟩
  exact ⟨wellFormed, different, remainingApart, earnedApart, _, _, applied, appliedSwapped, rfl,
    rfl, (alike _ _ applied appliedSwapped).2.2⟩

end Derive

end TableFlow
