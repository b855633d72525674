import TableFlow.Proofs.Sorting.Merge

/-!
# The sort is correct

Whatever the answers are, a sort that comes to an end gives the items it was given in another order.
If the answers are those of a strict weak order it comes to an end, and no item is less than an
earlier one.

Up to 20 items are sorted by insertion, which asks about every item and never gives up.
-/

namespace TableFlow

namespace Sorting

open Comparing

variable {α : Type} {lt : α → α → Bool}

theorem always_sortPair (first second : α) :
    (sortPair first second).Always fun pair => [pair.1, pair.2].Perm [first, second] := by
  refine Always.bind' fun answer => ?_
  cases answer
  · exact List.Perm.refl _
  · exact List.Perm.swap first second []

theorem gives_sortPair (order : StrictWeak lt) (first second : α) :
    (sortPair first second).Gives lt fun pair => lt pair.2 pair.1 = false := by
  rw [sortPair]
  refine Gives.bind ((gives_less second first).mpr rfl) ?_
  rintro answer rfl
  cases answer : lt second first
  · exact answer
  · exact order.asymm answer

theorem always_sortFour (first second third fourth : α) :
    (sortFour first second third fourth).Always (·.Perm [first, second, third, fourth]) := by
  refine (always_sortPair first second).bind fun left leftKept => ?_
  refine (always_sortPair third fourth).bind fun right rightKept => ?_
  refine Always.bind' fun rightLeast => Always.bind' fun leftGreatest => ?_
  refine (always_sortPair _ _).bind fun inner innerKept => ?_
  refine List.Perm.trans ?_ (leftKept.append rightKept)
  refine ((innerKept.append_right [_]).cons _).trans ?_
  classical
  rw [List.perm_iff_count]
  intro item
  cases rightLeast <;> cases leftGreatest <;> simp [List.count_cons] <;> omega

/-- Four items are in order if the inner ones are and lie between the outer ones. -/
theorem inOrder_between {least greatest earlier later : α} {inner : α × α}
    (ordered : lt inner.2 inner.1 = false) (kept : [inner.1, inner.2].Perm [earlier, later])
    (low : lt earlier least = false ∧ lt later least = false)
    (high : lt greatest earlier = false ∧ lt greatest later = false)
    (ends : lt greatest least = false) :
    InOrder lt [least, inner.1, inner.2, greatest] := by
  have within : ∀ item ∈ [inner.1, inner.2], lt item least = false ∧ lt greatest item = false := by
    intro item member
    rcases List.mem_pair.mp (kept.mem_iff.mp member) with rfl | rfl
    · exact ⟨low.1, high.1⟩
    · exact ⟨low.2, high.2⟩
  obtain ⟨firstLow, firstHigh⟩ := within inner.1 List.mem_cons_self
  obtain ⟨secondLow, secondHigh⟩ := within inner.2 (List.mem_cons_of_mem _ List.mem_cons_self)
  simp [InOrder, ordered, firstLow, firstHigh, secondLow, secondHigh, ends]

theorem gives_sortFour (order : StrictWeak lt) (first second third fourth : α) :
    (sortFour first second third fourth).Gives lt (InOrder lt) := by
  refine (gives_sortPair order first second).bind fun left leftOrdered => ?_
  refine (gives_sortPair order third fourth).bind fun right rightOrdered => ?_
  refine Gives.bind ((gives_less right.1 left.1).mpr rfl) ?_
  rintro rightLeast rfl
  refine Gives.bind ((gives_less right.2 left.2).mpr rfl) ?_
  rintro leftGreatest rfl
  refine ((gives_sortPair order _ _).and (always_sortPair _ _)).bind ?_
  rintro inner ⟨innerOrdered, innerKept⟩
  cases lows : lt right.1 left.1 <;> cases highs : lt right.2 left.2 <;>
    rw [lows, highs] at innerKept
  · exact inOrder_between innerOrdered innerKept ⟨leftOrdered, lows⟩ ⟨highs, rightOrdered⟩
      (order.not_lt_trans highs leftOrdered)
  · have highs := order.asymm highs
    exact inOrder_between innerOrdered innerKept ⟨lows, order.not_lt_trans rightOrdered lows⟩
      ⟨order.not_lt_trans highs rightOrdered, highs⟩ leftOrdered
  · have lows := order.asymm lows
    exact inOrder_between innerOrdered innerKept ⟨lows, order.not_lt_trans leftOrdered lows⟩
      ⟨order.not_lt_trans highs leftOrdered, highs⟩ rightOrdered
  · have lows := order.asymm lows
    exact inOrder_between innerOrdered innerKept ⟨lows, rightOrdered⟩
      ⟨leftOrdered, order.asymm highs⟩ (order.not_lt_trans leftOrdered lows)

/-- A sorted beginning and the rest are together the items. -/
theorem always_sortFirstFour (items : List α) :
    (sortFirstFour items).Always fun parts => (parts.1 ++ parts.2).Perm items := by
  fun_cases sortFirstFour items with
  | case1 first second third fourth rest =>
      exact (always_sortFour first second third fourth).bind fun sorted kept =>
        kept.append_right rest
  | case2 => exact List.Perm.refl items

theorem gives_sortFirstFour (order : StrictWeak lt) {items : List α} (enough : 4 ≤ items.length) :
    (sortFirstFour items).Gives lt fun parts => InOrder lt parts.1 ∧ parts.1.length = 4 := by
  fun_cases sortFirstFour items with
  | case1 first second third fourth rest =>
      refine ((gives_sortFour order first second third fourth).and (always_sortFour _ _ _ _)).bind
        ?_
      rintro sorted ⟨ordered, kept⟩
      exact ⟨ordered, kept.length_eq⟩
  | case2 items short =>
      rcases items with _ | ⟨first, _ | ⟨second, _ | ⟨third, _ | ⟨fourth, rest⟩⟩⟩⟩
      case cons.cons.cons.cons => exact (short first second third fourth rest rfl).elim
      all_goals
        simp only [List.length_nil, List.length_cons] at enough
        omega

theorem always_sortFirstEight (items : List α) :
    (sortFirstEight items).Always fun parts => (parts.1 ++ parts.2).Perm items := by
  refine (always_sortFirstFour items).bind ?_
  rintro ⟨left, rest⟩ leftKept
  refine (always_sortFirstFour rest).bind ?_
  rintro ⟨right, rest⟩ rightKept
  refine (always_mergeHalves left right).bind fun sorted kept => ?_
  refine (kept.append_right rest).trans ?_
  rw [List.append_assoc]
  exact (rightKept.append_left left).trans leftKept

theorem gives_sortFirstEight (order : StrictWeak lt) {items : List α}
    (enough : 8 ≤ items.length) :
    (sortFirstEight items).Gives lt fun parts => InOrder lt parts.1 := by
  refine ((gives_sortFirstFour order (by omega)).and (always_sortFirstFour items)).bind ?_
  rintro ⟨left, rest⟩ ⟨⟨leftOrdered, leftLength⟩, leftKept⟩
  dsimp only at leftOrdered leftLength
  have restLength : left.length + rest.length = items.length := by
    rw [← List.length_append]
    exact leftKept.length_eq
  refine (gives_sortFirstFour order (by omega)).bind ?_
  rintro ⟨right, rest⟩ ⟨rightOrdered, rightLength⟩
  exact (gives_mergeHalves order leftOrdered rightOrdered (by omega) (by omega)).bind
    fun sorted ordered => ordered

theorem always_sortBeginning (length : Nat) (half : List α) :
    (sortBeginning length half).Always fun parts => (parts.1 ++ parts.2).Perm half := by
  rw [sortBeginning]
  split_ifs
  · exact always_sortFirstEight half
  · exact always_sortFirstFour half
  · exact List.Perm.refl half

theorem gives_sortBeginning (order : StrictWeak lt) {length : Nat} {half : List α}
    (enough : length / 2 ≤ half.length) :
    (sortBeginning length half).Gives lt fun parts => InOrder lt parts.1 := by
  rw [sortBeginning]
  split_ifs
  · exact gives_sortFirstEight order (by omega)
  · exact (gives_sortFirstFour order (by omega)).mono fun parts found => found.1
  · exact InOrder.nil

theorem always_insertAll_reverse {items : List α} {parts : List α × List α}
    (kept : (parts.1 ++ parts.2).Perm items) :
    (insertAll parts.1.reverse parts.2).Always (·.Perm items) :=
  (always_insertAll parts.1.reverse parts.2).mono fun _ all =>
    (all.trans ((List.reverse_perm parts.1).append_right parts.2)).trans kept

theorem always_sortSmall (items : List α) : (sortSmall items).Always (·.Perm items) := by
  refine (always_sortBeginning _ _).bind ?_
  rintro ⟨left, leftRest⟩ leftParts
  refine (always_sortBeginning _ _).bind ?_
  rintro ⟨right, rightRest⟩ rightParts
  refine (always_insertAll_reverse leftParts).bind fun left leftKept => ?_
  refine (always_insertAll_reverse rightParts).bind fun right rightKept => ?_
  refine (always_mergeHalves left right).mono fun merged kept => ?_
  simpa only [List.take_append_drop] using kept.trans (leftKept.append rightKept)

theorem gives_sortSmall (order : StrictWeak lt) (items : List α) :
    (sortSmall items).Gives lt (InOrder lt) := by
  have leftLength : (items.take (items.length / 2)).length = items.length / 2 := by
    rw [List.length_take]; omega
  have rightLength : (items.drop (items.length / 2)).length = items.length - items.length / 2 := by
    rw [List.length_drop]
  refine ((gives_sortBeginning order (by omega)).and (always_sortBeginning _ _)).bind ?_
  rintro ⟨left, leftRest⟩ ⟨leftOrdered, leftParts⟩
  refine ((gives_sortBeginning order (by omega)).and (always_sortBeginning _ _)).bind ?_
  rintro ⟨right, rightRest⟩ ⟨rightOrdered, rightParts⟩
  refine ((gives_insertAll order leftRest (by rwa [List.reverse_reverse])).and
    (always_insertAll_reverse leftParts)).bind ?_
  rintro left ⟨leftOrdered, leftKept⟩
  refine ((gives_insertAll order rightRest (by rwa [List.reverse_reverse])).and
    (always_insertAll_reverse rightParts)).bind ?_
  rintro right ⟨rightOrdered, rightKept⟩
  have leftEq := leftKept.length_eq
  have rightEq := rightKept.length_eq
  exact gives_mergeHalves order leftOrdered rightOrdered (by omega) (by omega)

/-! ## Sorting by partition -/

theorem always_divide (goesLeft : α → Comparing α Bool) (items left right : List α) :
    (divide goesLeft items left right).Always fun parts =>
      (parts.1 ++ parts.2).Perm (left ++ right ++ items) := by
  induction items generalizing left right with
  | nil =>
      rw [divide, List.append_nil]
      exact List.Perm.refl _
  | cons item rest ih =>
      refine Always.bind' fun answer => ?_
      cases answer
      · refine (ih left (item :: right)).mono fun parts kept => kept.trans ?_
        rw [List.append_assoc, List.append_assoc]
        exact List.perm_middle.symm.append_left left
      · refine (ih (item :: left) right).mono fun parts kept => kept.trans ?_
        exact List.perm_middle.symm

theorem gives_divide {goesLeft : α → Comparing α Bool} {test : α → Bool}
    (answers : ∀ item, (goesLeft item).Gives lt (· = test item)) (items : List α)
    {left right : List α} (leftTest : ∀ item ∈ left, test item = true)
    (rightTest : ∀ item ∈ right, test item = false) :
    (divide goesLeft items left right).Gives lt fun parts =>
      (∀ item ∈ parts.1, test item = true) ∧ ∀ item ∈ parts.2, test item = false := by
  induction items generalizing left right with
  | nil => exact ⟨leftTest, rightTest⟩
  | cons item rest ih =>
      refine (answers item).bind ?_
      rintro answer rfl
      cases answer : test item
      · exact ih leftTest (List.forall_mem_cons.mpr ⟨answer, rightTest⟩)
      · exact ih (List.forall_mem_cons.mpr ⟨answer, leftTest⟩) rightTest

theorem always_partition (items : List α) (pivot : Fin items.length) (pivotLeft : Bool)
    (goesLeft : α → Comparing α Bool) :
    (partition items pivot pivotLeft goesLeft).Always fun parts =>
      (parts.1 ++ parts.2).Perm items := by
  refine (always_divide goesLeft (items.take pivot) [] []).bind ?_
  rintro ⟨left, right⟩ before
  refine (always_divide goesLeft (items.drop (pivot + 1)) _ _).bind fun parts all => ?_
  have withPivot : ((if pivotLeft then items.get pivot :: left else left) ++
      (if pivotLeft then right else items.get pivot :: right)).Perm
      (items.get pivot :: items.take pivot) := by
    cases pivotLeft
    · exact List.perm_middle.trans (before.cons _)
    · exact before.cons _
  have split : items = items.take pivot ++ items.get pivot :: items.drop (pivot + 1) := by
    rw [List.get_eq_getElem, ← List.drop_eq_getElem_cons pivot.isLt, List.take_append_drop]
  refine (((List.reverse_perm _).append (List.reverse_perm _)).trans all).trans ?_
  refine (withPivot.append_right _).trans ?_
  conv_rhs => rw [split]
  exact List.perm_middle.symm

theorem gives_partition {goesLeft : α → Comparing α Bool} {test : α → Bool}
    (answers : ∀ item, (goesLeft item).Gives lt (· = test item)) {items : List α}
    {pivot : Fin items.length} {pivotLeft : Bool} (pivotTest : test (items.get pivot) = pivotLeft) :
    (partition items pivot pivotLeft goesLeft).Gives lt fun parts =>
      (∀ item ∈ parts.1, test item = true) ∧ ∀ item ∈ parts.2, test item = false := by
  refine (gives_divide answers (items.take pivot) (List.forall_mem_nil _)
    (List.forall_mem_nil _)).bind ?_
  rintro ⟨left, right⟩ ⟨leftTest, rightTest⟩
  have sides : (∀ item ∈ (if pivotLeft then items.get pivot :: left else left), test item = true) ∧
      ∀ item ∈ (if pivotLeft then right else items.get pivot :: right), test item = false := by
    cases pivotLeft
    · exact ⟨leftTest, List.forall_mem_cons.mpr ⟨pivotTest, rightTest⟩⟩
    · exact ⟨List.forall_mem_cons.mpr ⟨pivotTest, leftTest⟩, rightTest⟩
  refine (gives_divide answers (items.drop (pivot + 1)) sides.1 sides.2).bind ?_
  rintro ⟨left, right⟩ ⟨leftTest, rightTest⟩
  exact ⟨fun item member => leftTest item (List.mem_reverse.mp member),
    fun item member => rightTest item (List.mem_reverse.mp member)⟩

theorem gives_median (items : List α) (first second third : Fin items.length) :
    (median items first second third).Gives lt fun _ => True := by
  refine Gives.bind ((gives_less _ _).mpr rfl) fun beforeSecond _ => ?_
  refine Gives.bind ((gives_less _ _).mpr rfl) fun beforeThird _ => ?_
  split
  · exact Gives.bind ((gives_less _ _).mpr rfl) fun _ _ => trivial
  · trivial

theorem gives_pivotOf (items : List α) (start length : Nat) (positive : 0 < length)
    (inside : start + length ≤ items.length) :
    (pivotOf items start length positive inside).Gives lt fun _ => True := by
  fun_induction pivotOf items start length positive inside with
  | case1 start length positive inside large first second third =>
      refine first.bind fun first _ => second.bind fun second _ => third.bind fun third _ => ?_
      exact gives_median items first second third
  | case2 start length positive inside small => exact gives_median items _ _ _

theorem always_splitLess (ancestor : Option α) (items : List α) (position : Fin items.length) :
    (splitLess ancestor items position).Always fun parts => (parts.1 ++ parts.2).Perm items := by
  refine Always.bind' fun least => ?_
  cases least
  · exact always_partition items position false _
  · exact List.Perm.refl items

theorem always_sortByPartition {fallback : List α → Comparing α (List α)}
    (keeps : ∀ items, 32 < items.length → (fallback items).Always (·.Perm items)) (limit : Nat)
    (ancestor : Option α) (items : List α) :
    (sortByPartition fallback limit ancestor items).Always (·.Perm items) := by
  induction limit generalizing ancestor items with
  | zero =>
      rw [sortByPartition]
      split
      · exact always_sortSmall items
      · exact keeps items (by omega)
  | succ limit ih =>
      rw [sortByPartition]
      split
      · exact always_sortSmall items
      · refine Always.bind' fun position => ?_
        refine (always_splitLess ancestor items position).bind ?_
        rintro ⟨left, right⟩ divided
        dsimp only
        split
        · refine (always_partition items position true _).bind ?_
          rintro ⟨equals, greater⟩ apart
          refine (ih none greater).bind fun sorted kept => ?_
          exact (kept.append_left equals).trans apart
        · refine (ih _ right).bind fun rightSorted rightKept => ?_
          refine (ih ancestor left).bind fun leftSorted leftKept => ?_
          exact (leftKept.append rightKept).trans divided

/-- If a pivot is found to be least, no item is less than it. -/
theorem gives_isLeast (order : StrictWeak lt) {ancestor : Option α} {items : List α} {pivot : α}
    (above : ∀ low ∈ ancestor, ∀ item ∈ items, lt item low = false) :
    (isLeast ancestor pivot).Gives lt fun least =>
      least = true → ∀ item ∈ items, lt item pivot = false := by
  cases ancestor with
  | none => exact fun least => absurd least Bool.false_ne_true
  | some low =>
      refine Gives.bind ((gives_less low pivot).mpr rfl) ?_
      rintro answer rfl
      rw [gives_pure, Bool.not_eq_true']
      intro notLess item member
      exact order.not_lt_trans (above low rfl item member) notLess

theorem gives_splitLess (order : StrictWeak lt) {ancestor : Option α} {items : List α}
    {position : Fin items.length} (above : ∀ low ∈ ancestor, ∀ item ∈ items, lt item low = false) :
    (splitLess ancestor items position).Gives lt fun parts =>
      (∀ item ∈ parts.1, lt item (items.get position) = true) ∧
        ∀ item ∈ parts.2, lt item (items.get position) = false := by
  refine (gives_isLeast order above).bind fun least isLeast => ?_
  cases least
  · exact gives_partition (fun item => (gives_less _ _).mpr rfl) (order.irrefl _)
  · exact ⟨List.forall_mem_nil _, isLeast rfl⟩

theorem gives_splitNotGreater (order : StrictWeak lt) (items : List α)
    (position : Fin items.length) :
    (splitNotGreater items position).Gives lt fun parts =>
      (∀ item ∈ parts.1, lt (items.get position) item = false) ∧
        ∀ item ∈ parts.2, lt (items.get position) item = true := by
  have answers (item : α) : Gives lt (· = !lt (items.get position) item)
      (do let isLess ← less (items.get position) item; return !isLess) := by
    refine Gives.bind ((gives_less _ _).mpr rfl) ?_
    rintro answer rfl
    rfl
  refine (gives_partition answers ?_).mono ?_
  · rw [order.irrefl, Bool.not_false]
  · simp

/-- No item is less than the pivot: those that equal it come first, then the greater ones. -/
theorem inOrder_equals (order : StrictWeak lt) {pivot : α} {equals greater sorted : List α}
    (atLeast : ∀ item ∈ equals, lt item pivot = false)
    (atMost : ∀ item ∈ equals, lt pivot item = false)
    (above : ∀ item ∈ greater, lt pivot item = true) (ordered : InOrder lt sorted)
    (kept : sorted.Perm greater) : InOrder lt (equals ++ sorted) := by
  refine InOrder.append ?_ ordered ?_
  · refine List.pairwise_of_forall_mem_list ?_
    intro earlier first later second
    exact order.not_lt_trans (atLeast later second) (atMost earlier first)
  · intro earlier first later second
    have pivotLess := above later (kept.mem_iff.mp second)
    exact order.not_lt_trans (order.asymm pivotLess) (atMost earlier first)

theorem inOrder_split (order : StrictWeak lt) {pivot : α}
    {left right leftSorted rightSorted : List α} (below : ∀ item ∈ left, lt item pivot = true)
    (above : ∀ item ∈ right, lt item pivot = false) (leftOrdered : InOrder lt leftSorted)
    (leftKept : leftSorted.Perm left) (rightOrdered : InOrder lt rightSorted)
    (rightKept : rightSorted.Perm right) :
    InOrder lt (leftSorted ++ rightSorted) := by
  refine leftOrdered.append rightOrdered fun earlier first later second => ?_
  exact order.not_lt_trans (above later (rightKept.mem_iff.mp second))
    (order.asymm (below earlier (leftKept.mem_iff.mp first)))

theorem gives_sortByPartition (order : StrictWeak lt) {fallback : List α → Comparing α (List α)}
    (keeps : ∀ items, 32 < items.length → (fallback items).Always (·.Perm items))
    (sorts : ∀ items, (fallback items).Gives lt (InOrder lt)) (limit : Nat) {ancestor : Option α}
    {items : List α} (above : ∀ low ∈ ancestor, ∀ item ∈ items, lt item low = false) :
    (sortByPartition fallback limit ancestor items).Gives lt (InOrder lt) := by
  induction limit generalizing ancestor items with
  | zero =>
      rw [sortByPartition]
      split
      · exact gives_sortSmall order items
      · exact sorts items
  | succ limit ih =>
      rw [sortByPartition]
      split
      · exact gives_sortSmall order items
      · refine (gives_pivotOf items 0 items.length _ _).bind fun position _ => ?_
        refine ((gives_splitLess order above).and (always_splitLess ancestor items position)).bind
          ?_
        rintro ⟨left, right⟩ ⟨⟨leftLess, rightNotLess⟩, divided⟩
        dsimp only at leftLess rightNotLess divided ⊢
        split
        · rename_i noneLess
          rw [List.isEmpty_iff] at noneLess
          subst noneLess
          refine ((gives_splitNotGreater order items position).and
            (always_partition items position true _)).bind ?_
          rintro ⟨equals, greater⟩ ⟨⟨atMost, isGreater⟩, apart⟩
          have aboveNone : ∀ low ∈ (none : Option α), ∀ item ∈ greater, lt item low = false :=
            fun low isLow => absurd isLow (Option.not_mem_none low)
          refine ((ih aboveNone).and (always_sortByPartition keeps limit none greater)).bind ?_
          rintro sorted ⟨ordered, kept⟩
          refine inOrder_equals order (fun item member => ?_) atMost isGreater ordered kept
          exact rightNotLess item
            (divided.mem_iff.mpr (apart.mem_iff.mp (List.mem_append_left _ member)))
        · have aboveLeft : ∀ low ∈ ancestor, ∀ item ∈ left, lt item low = false :=
            fun low isLow item member =>
              above low isLow item (divided.mem_iff.mp (List.mem_append_left _ member))
          have aboveRight : ∀ low ∈ some (items.get position), ∀ item ∈ right,
              lt item low = false := by
            rintro low ⟨⟩ item member
            exact rightNotLess item member
          refine ((ih aboveRight).and (always_sortByPartition keeps limit _ right)).bind ?_
          rintro rightSorted ⟨rightOrdered, rightKept⟩
          refine ((ih aboveLeft).and (always_sortByPartition keeps limit ancestor left)).bind ?_
          rintro leftSorted ⟨leftOrdered, leftKept⟩
          exact inOrder_split order leftLess rightNotLess leftOrdered leftKept rightOrdered
            rightKept

/-! ## Sorting by stretches -/

/-- What is asked while the items are counted: the first of them are in order, or in the opposite
one. -/
theorem gives_countOrdered (descending : Bool) (last : α) (items : List α) (counted : Nat) :
    (countOrdered descending last items counted).Gives lt fun count =>
      ∃ more, count = counted + more ∧
        (last :: items.take more).IsChain fun earlier later => lt later earlier = descending := by
  induction items generalizing last counted with
  | nil => exact ⟨0, rfl, List.IsChain.singleton last⟩
  | cons item rest ih =>
      rw [countOrdered, Gives]
      split
      · rename_i isDescending
        refine (ih item (counted + 1)).mono ?_
        rintro count ⟨more, rfl, chain⟩
        exact ⟨more + 1, by omega, chain.cons_cons isDescending⟩
      · exact ⟨0, rfl, List.IsChain.singleton last⟩

theorem inOrder_of_isChain (order : StrictWeak lt) {items : List α}
    (chain : items.IsChain fun earlier later => lt later earlier = false) : InOrder lt items := by
  have : Trans (fun earlier later => lt later earlier = false)
      (fun earlier later => lt later earlier = false)
      (fun earlier later : α => lt later earlier = false) :=
    ⟨fun first second => order.not_lt_trans second first⟩
  exact chain.pairwise

theorem always_orderedBeginning (items : List α) :
    (orderedBeginning items).Always fun beginning =>
      beginning.Perm (items.take beginning.length) := by
  fun_cases orderedBeginning items with
  | case1 first second rest =>
      intro descending
      refine Always.bind' fun count => ?_
      have whole : (first :: second :: rest).take ((first :: second :: rest).take count).length =
          (first :: second :: rest).take count := by
        rw [List.length_take, ← List.take_take, List.take_length]
      cases descending
      · rw [always_pure, if_neg Bool.false_ne_true, whole]
      · rw [always_pure, if_pos rfl, List.length_reverse, whole]
        exact List.reverse_perm _
  | case2 => rw [Always, List.take_length]

theorem gives_orderedBeginning (order : StrictWeak lt) (items : List α) :
    (orderedBeginning items).Gives lt (InOrder lt) := by
  fun_cases orderedBeginning items with
  | case1 first second rest =>
      rw [Gives]
      generalize isDescending : lt second first = descending
      refine (gives_countOrdered descending second rest 2).bind ?_
      rintro count ⟨more, rfl, chain⟩
      have beginning : ((first :: second :: rest).take (2 + more)).IsChain
          fun earlier later => lt later earlier = descending := by
        rw [Nat.add_comm]
        exact List.IsChain.cons_cons isDescending chain
      rw [gives_pure]
      cases descending
      · exact inOrder_of_isChain order beginning
      · have ascending := beginning.imp fun _ _ isLess => order.asymm isLess
        exact (inOrder_of_isChain order.swap ascending).reverse
  | case2 items short =>
      rcases items with _ | ⟨first, _ | ⟨second, rest⟩⟩
      · exact InOrder.nil
      · exact List.pairwise_singleton _ first
      · exact (short first second rest rfl).elim

/-- A stretch of a list that is not empty is a beginning of it, up to the order, and not empty. -/
theorem always_firstStretch {good : Nat} (positive : 0 < good) (eager : Bool) {items : List α}
    (some : items ≠ []) :
    (firstStretch good eager items).Always fun stretch =>
      stretch.items.Perm (items.take stretch.items.length) ∧ 0 < stretch.items.length := by
  have long := List.length_pos_of_ne_nil some
  refine Always.bind (P := fun ordered => ordered.Perm (items.take ordered.length)) ?_ ?_
  · split
    · exact always_orderedBeginning items
    · exact List.Perm.refl []
  · intro ordered kept
    split
    · exact ⟨kept, by dsimp only; omega⟩
    · split
      · refine (always_sortSmall (items.take 32)).bind fun sorted sortedKept => ?_
        have length := sortedKept.length_eq
        rw [List.length_take] at length
        refine ⟨sortedKept.trans ?_, by dsimp only; omega⟩
        dsimp only
        rw [length, ← List.take_take, List.take_length]
      · refine ⟨?_, by simp; omega⟩
        dsimp only
        rw [List.length_take, ← List.take_take, List.take_length]

/-- A stretch is in order if it says so, as it does if the sort is eager. -/
structure Stretch.Sound (lt : α → α → Bool) (eager : Bool) (stretch : Stretch α) : Prop where
  inOrder : stretch.sorted = true → InOrder lt stretch.items
  sorted : eager = true → stretch.sorted = true

theorem gives_firstStretch (order : StrictWeak lt) (good : Nat) (eager : Bool) (items : List α) :
    (firstStretch good eager items).Gives lt (Stretch.Sound lt eager) := by
  refine Gives.bind (P := InOrder lt) ?_ ?_
  · split
    · exact gives_orderedBeginning order items
    · exact InOrder.nil
  · intro ordered isOrdered
    split
    · exact ⟨fun _ => isOrdered, fun _ => rfl⟩
    · split
      · refine (gives_sortSmall order _).bind fun sorted isSorted => ?_
        exact ⟨fun _ => isSorted, fun _ => rfl⟩
      · rename_i lazy
        exact ⟨fun sorted => absurd sorted Bool.false_ne_true, fun isEager => (lazy isEager).elim⟩

section Joining

variable {sort : List α → Comparing α (List α)} {eager : Bool}

theorem Stretch.always_inOrder (keeps : ∀ items, (sort items).Always (·.Perm items))
    (stretch : Stretch α) : (stretch.inOrder sort).Always (·.Perm stretch.items) := by
  rw [inOrder]
  split
  · exact List.Perm.refl _
  · exact keeps stretch.items

theorem Stretch.Sound.gives_inOrder
    (sorts : eager = false → ∀ items, (sort items).Gives lt (InOrder lt)) {stretch : Stretch α}
    (sound : stretch.Sound lt eager) : (stretch.inOrder sort).Gives lt (InOrder lt) := by
  rw [Stretch.inOrder]
  split
  · rename_i isSorted
    exact sound.inOrder isSorted
  · rename_i notSorted
    exact sorts (by simpa using mt sound.sorted notSorted) stretch.items

theorem Stretch.always_join (keeps : ∀ items, (sort items).Always (·.Perm items)) (room : Nat)
    (left right : Stretch α) :
    (Stretch.join sort room left right).Always (·.items.Perm (left.items ++ right.items)) := by
  rw [join]
  split
  · exact List.Perm.refl _
  · refine (left.always_inOrder keeps).bind fun leftSorted leftKept => ?_
    refine (right.always_inOrder keeps).bind fun rightSorted rightKept => ?_
    refine (always_merge leftSorted rightSorted).bind fun merged kept => ?_
    exact kept.trans (leftKept.append rightKept)

theorem Stretch.Sound.gives_join (order : StrictWeak lt)
    (sorts : eager = false → ∀ items, (sort items).Gives lt (InOrder lt)) (room : Nat)
    {left right : Stretch α} (leftSound : left.Sound lt eager) (rightSound : right.Sound lt eager) :
    (Stretch.join sort room left right).Gives lt (Stretch.Sound lt eager) := by
  rw [Stretch.join]
  split
  · rename_i unsorted
    refine ⟨fun sorted => absurd sorted Bool.false_ne_true, fun isEager => ?_⟩
    rw [leftSound.sorted isEager] at unsorted
    exact absurd unsorted.2.1 (by decide)
  · refine (leftSound.gives_inOrder sorts).bind fun leftSorted leftOrdered => ?_
    refine (rightSound.gives_inOrder sorts).bind fun rightSorted rightOrdered => ?_
    refine (gives_merge order leftOrdered rightOrdered).bind fun merged ordered => ?_
    exact ⟨fun _ => ordered, fun _ => rfl⟩

variable {join : Stretch α → Stretch α → Comparing α (Stretch α)}

def itemsOf (stretches : List (Stretch α × Nat)) : List α :=
  stretches.flatMap fun entry => entry.1.items

theorem always_joinDeeper
    (joins : ∀ left right, (join left right).Always (·.items.Perm (left.items ++ right.items)))
    (depth : Nat) (before : List (Stretch α × Nat)) (last : Stretch α) :
    (joinDeeper join depth before last).Always fun result =>
      (itemsOf result.1 ++ result.2.items).Perm (itemsOf before ++ last.items) ∧
        (depth = 0 → result.1 = []) := by
  induction before generalizing last with
  | nil => exact ⟨List.Perm.refl _, fun _ => rfl⟩
  | cons entry deeper ih =>
      obtain ⟨previous, itsDepth⟩ := entry
      rw [joinDeeper]
      split
      · refine (joins previous last).bind fun joined kept => (ih joined).mono ?_
        rintro ⟨rest, whole⟩ ⟨restKept, emptied⟩
        refine ⟨restKept.trans ((kept.append_left _).trans ?_), emptied⟩
        rw [itemsOf, itemsOf, List.flatMap_cons, ← List.append_assoc]
        exact List.perm_append_comm.append_right last.items
      · exact ⟨List.Perm.refl _, fun isZero => by omega⟩

theorem gives_joinDeeper {P : Stretch α → Prop}
    (joins : ∀ left right, P left → P right → (join left right).Gives lt P) (depth : Nat)
    {before : List (Stretch α × Nat)} {last : Stretch α} (each : ∀ entry ∈ before, P entry.1)
    (lastHolds : P last) :
    (joinDeeper join depth before last).Gives lt fun result =>
      (∀ entry ∈ result.1, P entry.1) ∧ P result.2 := by
  induction before generalizing last with
  | nil => exact ⟨List.forall_mem_nil _, lastHolds⟩
  | cons entry deeper ih =>
      obtain ⟨previous, itsDepth⟩ := entry
      obtain ⟨previousHolds, deeperHold⟩ := List.forall_mem_cons.mp each
      rw [joinDeeper]
      split
      · exact (joins previous last previousHolds lastHolds).bind fun joined => ih deeperHold
      · exact ⟨each, lastHolds⟩

end Joining

theorem goodLength_pos {length : Nat} (positive : 0 < length) : 0 < goodLength length := by
  rw [goodLength]
  split
  · omega
  · rename_i long
    have bits : 12 ≤ (length ||| 1).log2 := by
      have atLeast : length ≤ length ||| 1 := Nat.left_le_or
      rw [Nat.le_log2 (by omega)]
      omega
    have shift : 2 ≤ 1 <<< ((1 + (length ||| 1).log2) / 2) := by
      rw [Nat.shiftLeft_eq, Nat.one_mul]
      calc 2 = 2 ^ 1 := rfl
        _ ≤ 2 ^ ((1 + (length ||| 1).log2) / 2) := Nat.pow_le_pow_right (by decide) (by omega)
    dsimp only
    generalize 1 <<< ((1 + (length ||| 1).log2) / 2) = power at shift
    generalize length >>> ((1 + (length ||| 1).log2) / 2) = quotient
    omega

theorem perm_of_beginning {beginning items : List α} {count : Nat}
    (kept : beginning.Perm (items.take count)) : (beginning ++ items.drop count).Perm items := by
  simpa only [List.take_append_drop] using kept.append_right (items.drop count)

theorem always_joinStretches {join : Stretch α → Stretch α → Comparing α (Stretch α)}
    (joins : ∀ left right, (join left right).Always (·.items.Perm (left.items ++ right.items)))
    (eager : Bool) {length : Nat} (positive : 0 < length) (before : List (Stretch α × Nat))
    (last : Stretch α) (position : Nat) (rest : List α) :
    (joinStretches join eager length before last position rest).Always
      (·.items.Perm (itemsOf before ++ last.items ++ rest)) := by
  fun_induction joinStretches join eager length before last position rest with
  | case1 before last position =>
      refine (always_joinDeeper joins 0 before last).bind ?_
      rintro ⟨rest, whole⟩ ⟨kept, emptied⟩
      rw [emptied rfl] at kept
      rw [List.append_nil]
      exact kept
  | case2 before last position item rest ih =>
      refine (always_firstStretch (goodLength_pos positive) eager (List.cons_ne_nil item rest)).bind
        ?_
      rintro next ⟨nextKept, nonempty⟩
      refine (always_joinDeeper joins _ before last).bind ?_
      rintro ⟨rest', joined⟩ ⟨kept, -⟩
      dsimp only at kept
      refine (ih next rest' joined).mono fun whole all => all.trans ?_
      have restKept : (next.items ++ rest.drop (next.items.length - 1)).Perm (item :: rest) := by
        have cut : (item :: rest).drop next.items.length = rest.drop (next.items.length - 1) := by
          obtain ⟨more, isMore⟩ := Nat.exists_eq_add_of_lt nonempty
          rw [isMore, Nat.zero_add, List.drop_succ_cons, Nat.add_sub_cancel]
        rw [← cut]
        exact perm_of_beginning nextKept
      rw [itemsOf, List.flatMap_cons, List.append_assoc]
      exact (List.perm_append_comm.trans kept).append restKept

theorem gives_joinStretches (order : StrictWeak lt)
    {join : Stretch α → Stretch α → Comparing α (Stretch α)} {eager : Bool}
    (joins : ∀ left right, Stretch.Sound lt eager left → Stretch.Sound lt eager right →
      (join left right).Gives lt (Stretch.Sound lt eager))
    (length : Nat) {before : List (Stretch α × Nat)} {last : Stretch α} (position : Nat)
    (rest : List α) (each : ∀ entry ∈ before, entry.1.Sound lt eager)
    (lastSound : last.Sound lt eager) :
    (joinStretches join eager length before last position rest).Gives lt
      (Stretch.Sound lt eager) := by
  fun_induction joinStretches join eager length before last position rest with
  | case1 before last position =>
      exact (gives_joinDeeper joins 0 each lastSound).bind fun result sound => sound.2
  | case2 before last position item rest ih =>
      refine (gives_firstStretch order _ eager (item :: rest)).bind fun next nextSound => ?_
      refine (gives_joinDeeper joins _ each lastSound).bind ?_
      rintro ⟨rest', joined⟩ ⟨restSound, joinedSound⟩
      exact ih next rest' joined (List.forall_mem_cons.mpr ⟨joinedSound, restSound⟩) nextSound

theorem always_sortByStretches {sort : List α → Comparing α (List α)}
    (keeps : ∀ items, (sort items).Always (·.Perm items)) (room : Nat) (eager : Bool)
    {items : List α} (some : items ≠ []) :
    (sortByStretches sort room eager items).Always (·.Perm items) := by
  have positive := List.length_pos_of_ne_nil some
  refine (always_firstStretch (goodLength_pos positive) eager some).bind ?_
  rintro first ⟨firstKept, -⟩
  refine (always_joinStretches (Stretch.always_join keeps room) eager positive [] first _ _).bind ?_
  intro whole wholeKept
  refine (whole.always_inOrder keeps).mono fun sorted kept => (kept.trans wholeKept).trans ?_
  exact perm_of_beginning firstKept

theorem gives_sortByStretches (order : StrictWeak lt) {sort : List α → Comparing α (List α)}
    {eager : Bool} (sorts : eager = false → ∀ items, (sort items).Gives lt (InOrder lt))
    (room : Nat) (items : List α) :
    (sortByStretches sort room eager items).Gives lt (InOrder lt) := by
  refine (gives_firstStretch order _ eager items).bind fun first firstSound => ?_
  refine (gives_joinStretches order (fun left right leftSound rightSound =>
    leftSound.gives_join order sorts room rightSound) items.length _ _ (List.forall_mem_nil _)
    firstSound).bind fun whole wholeSound => ?_
  exact wholeSound.gives_inOrder sorts

theorem always_sortEagerly (room : Nat) (items : List α) (long : 32 < items.length) :
    (sortByStretches .done room true items).Always (·.Perm items) := by
  have keeps (items : List α) : (done items : Comparing α (List α)).Always (·.Perm items) :=
    List.Perm.refl items
  exact always_sortByStretches keeps room true (List.ne_nil_of_length_pos (by omega))

theorem always_sortPart (room : Nat) (items : List α) :
    (sortPart room items).Always (·.Perm items) :=
  always_sortByPartition (always_sortEagerly room) _ none items

theorem gives_sortPart (order : StrictWeak lt) (room : Nat) (items : List α) :
    (sortPart room items).Gives lt (InOrder lt) := by
  refine gives_sortByPartition order (always_sortEagerly room) (fun items => ?_) _ ?_
  · exact gives_sortByStretches order (fun lazy => absurd lazy (by decide)) room items
  · exact fun low isLow => absurd isLow (Option.not_mem_none low)

/-! ## The sort -/

/-- Whatever the answers are, what is sorted are the items. -/
theorem always_stableSort (items : List α) : (stableSort items).Always (·.Perm items) := by
  rw [stableSort]
  split
  · exact always_insertAll [] items
  · refine always_sortByStretches (always_sortPart _) _ _ ?_
    exact List.ne_nil_of_length_pos (by omega)

/-- By a strict weak order the items are put in order. -/
theorem gives_stableSort (order : StrictWeak lt) (items : List α) :
    (stableSort items).Gives lt (InOrder lt) := by
  rw [stableSort]
  split
  · exact gives_insertAll order items InOrder.nil
  · exact gives_sortByStretches order (fun _ => gives_sortPart order _) _ items

/-- Insertion never gives up. -/
theorem gives_insertBack_trivial (item : α) (sorted : List α) :
    (insertBack item sorted).Gives lt fun _ => True := by
  induction sorted with
  | nil => trivial
  | cons last rest ih =>
      rw [insertBack, Gives]
      split
      · exact ih.bind fun _ _ => trivial
      · trivial

/-- Up to 20 items are sorted whatever the answers are. -/
theorem gives_stableSort_of_short {items : List α} (short : items.length ≤ 20) :
    (stableSort items).Gives lt fun _ => True := by
  have inserts (sorted : List α) : (insertAll sorted items).Gives lt fun _ => True := by
    induction items generalizing sorted with
    | nil => trivial
    | cons item rest ih =>
        refine (gives_insertBack_trivial item sorted).bind fun next _ => ih ?_ next
        exact Nat.le_of_succ_le short
  rw [stableSort, if_pos short]
  exact inserts []

end Sorting

end TableFlow
