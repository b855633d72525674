import Mathlib.Data.List.Perm.Basic
import TableFlow.Proofs.Sorting.Comparing
import TableFlow.Sorting

/-!
# Inserting and merging

Whatever the answers are, inserting and merging keep the items.  If the answers are those of a
strict weak order they keep the order as well.

A merge from both ends needs more than that: after as many steps from the front as from the back the
two ends must meet.  What has been taken from the front is a beginning of each list, and the two
beginnings `Split` the lists: an item of one of them comes before all items of the other list that
are left.  The same is true of what the back has left.  Of two splits one lies within the other, so
it is enough to count the items.
-/

namespace TableFlow

namespace Sorting

open Comparing

variable {α : Type} {lt : α → α → Bool}

/-- A comparison that is a strict weak order: items neither of which is less are equivalent. -/
structure StrictWeak (lt : α → α → Bool) : Prop where
  asymm {left right : α} (isLess : lt left right = true) : lt right left = false
  not_lt_trans {first second third : α} (left : lt first second = false)
    (right : lt second third = false) : lt first third = false

namespace StrictWeak

theorem irrefl (order : StrictWeak lt) (item : α) : lt item item = false := by
  by_contra isLess
  rw [Bool.not_eq_false] at isLess
  exact Bool.false_ne_true ((order.asymm isLess).symm.trans isLess)

theorem lt_of_lt_of_not_lt (order : StrictWeak lt) {first second third : α}
    (isLess : lt first second = true) (notLess : lt third second = false) :
    lt first third = true := by
  by_contra other
  rw [Bool.not_eq_true] at other
  exact Bool.false_ne_true ((order.not_lt_trans other notLess).symm.trans isLess)

theorem swap (order : StrictWeak lt) : StrictWeak fun left right => lt right left where
  asymm isLess := order.asymm isLess
  not_lt_trans left right := order.not_lt_trans right left

end StrictWeak

/-- No item is less than an earlier one. -/
def InOrder (lt : α → α → Bool) (items : List α) : Prop :=
  items.Pairwise fun earlier later => lt later earlier = false

namespace InOrder

theorem nil : InOrder lt ([] : List α) :=
  List.Pairwise.nil

theorem reverse {items : List α} (ordered : InOrder lt items) :
    InOrder (fun left right => lt right left) items.reverse :=
  List.pairwise_reverse.mpr ordered

theorem cons {items : List α} {item : α} (ordered : InOrder lt items)
    (least : ∀ later ∈ items, lt later item = false) : InOrder lt (item :: items) :=
  List.Pairwise.cons least ordered

theorem append {front back : List α} (first : InOrder lt front) (second : InOrder lt back)
    (across : ∀ earlier ∈ front, ∀ later ∈ back, lt later earlier = false) :
    InOrder lt (front ++ back) :=
  List.pairwise_append.mpr ⟨first, second, across⟩

/-- Of two items that lie before and behind some position the later one is not less. -/
theorem not_lt {items : List α} (ordered : InOrder lt items) {position : Nat} {earlier later : α}
    (before : earlier ∈ items.take position) (behind : later ∈ items.drop position) :
    lt later earlier = false := by
  rw [InOrder, ← List.take_append_drop position items] at ordered
  exact (List.pairwise_append.mp ordered).2.2 earlier before later behind

end InOrder

theorem always_insertBack (item : α) (sorted : List α) :
    (insertBack item sorted).Always (·.Perm (item :: sorted)) := by
  induction sorted with
  | nil => exact List.Perm.refl [item]
  | cons last rest ih =>
      rw [insertBack]
      intro answer
      cases answer
      · exact List.Perm.refl _
      · exact ih.bind fun deeper kept => (kept.cons last).trans (List.Perm.swap item last rest)

theorem gives_insertBack (order : StrictWeak lt) (item : α) {sorted : List α}
    (ordered : InOrder lt sorted.reverse) :
    (insertBack item sorted).Gives lt fun result => InOrder lt result.reverse := by
  induction sorted with
  | nil => exact List.pairwise_singleton _ _
  | cons last rest ih =>
      have notLast : ∀ earlier ∈ rest, lt last earlier = false := by
        intro earlier member
        rw [InOrder, List.reverse_cons] at ordered
        exact (List.pairwise_append.mp ordered).2.2 earlier (List.mem_reverse.mpr member) last
          List.mem_cons_self
      have before : InOrder lt rest.reverse := by
        rw [InOrder, List.reverse_cons] at ordered
        exact (List.pairwise_append.mp ordered).1
      rw [insertBack, Gives]
      cases answer : lt item last
      · -- the item stays behind the last one, and so behind all of them
        rw [if_neg Bool.false_ne_true, Gives, List.reverse_cons]
        refine ordered.append (List.pairwise_singleton _ _) ?_
        intro earlier member later isItem
        rw [List.mem_singleton] at isItem
        rw [isItem]
        rcases List.mem_cons.mp (List.mem_reverse.mp member) with isLast | inRest
        · rwa [isLast]
        · exact order.not_lt_trans answer (notLast earlier inRest)
      · refine ((ih before).and (always_insertBack item rest)).bind ?_
        rintro deeper ⟨deeperOrdered, kept⟩
        rw [gives_pure, List.reverse_cons]
        refine deeperOrdered.append (List.pairwise_singleton _ _) ?_
        intro earlier member later isLast
        rw [List.mem_singleton] at isLast
        rw [isLast]
        rcases List.mem_cons.mp (kept.mem_iff.mp (List.mem_reverse.mp member)) with isItem | inRest
        · rw [isItem]
          exact order.asymm answer
        · exact notLast earlier inRest

theorem always_insertAll (sorted items : List α) :
    (insertAll sorted items).Always (·.Perm (sorted ++ items)) := by
  induction items generalizing sorted with
  | nil =>
      rw [insertAll, List.append_nil]
      exact List.reverse_perm sorted
  | cons item rest ih =>
      refine (always_insertBack item sorted).bind fun next kept => (ih next).mono ?_
      intro result all
      exact all.trans ((kept.append_right rest).trans List.perm_middle.symm)

theorem gives_insertAll (order : StrictWeak lt) (items : List α) {sorted : List α}
    (ordered : InOrder lt sorted.reverse) : (insertAll sorted items).Gives lt (InOrder lt) := by
  induction items generalizing sorted with
  | nil => exact ordered
  | cons item rest ih => exact (gives_insertBack order item ordered).bind fun next => ih

/-! ## Merging from both ends -/

/-- Two beginnings of two lists between which a merge can be cut. -/
structure Split (lt : α → α → Bool) (first second : List α) (i j : Nat) : Prop where
  low : ∀ early ∈ first.take i, ∀ late ∈ second.drop j, lt late early = false
  high : ∀ early ∈ second.take j, ∀ late ∈ first.drop i, lt early late = true

theorem mem_take_of_lt {items : List α} {position stop : Nat} (inside : position < items.length)
    (before : position < stop) : items[position] ∈ items.take stop := by
  rw [List.mem_take_iff_getElem]
  exact ⟨position, by omega, rfl⟩

theorem mem_drop_of_le {items : List α} {position start : Nat} (inside : position < items.length)
    (behind : start ≤ position) : items[position] ∈ items.drop start := by
  rw [List.mem_drop_iff_getElem]
  exact ⟨position - start, by omega, by congr 1; omega⟩

/-- Of two splits the one with fewer items lies within the other one. -/
theorem Split.le {first second : List α} {i j i' j' : Nat} (inner : Split lt first second i j)
    (outer : Split lt first second i' j') (fewer : i + j ≤ i' + j') (iLe : i ≤ first.length)
    (jLe : j ≤ second.length) (iLe' : i' ≤ first.length) (jLe' : j' ≤ second.length) :
    i ≤ i' ∧ j ≤ j' := by
  constructor
  · by_contra less
    have notLess := inner.low _ (mem_take_of_lt (show i' < first.length by omega) (by omega)) _
      (mem_drop_of_le (show j < second.length by omega) (Nat.le_refl j))
    have isLess := outer.high _ (mem_take_of_lt (show j < second.length by omega) (by omega)) _
      (mem_drop_of_le (show i' < first.length by omega) (Nat.le_refl i'))
    exact Bool.false_ne_true (notLess.symm.trans isLess)
  · by_contra less
    have notLess := outer.low _ (mem_take_of_lt (show i < first.length by omega) (by omega)) _
      (mem_drop_of_le (show j' < second.length by omega) (Nat.le_refl j'))
    have isLess := inner.high _ (mem_take_of_lt (show j' < second.length by omega) (by omega)) _
      (mem_drop_of_le (show i < first.length by omega) (Nat.le_refl i))
    exact Bool.false_ne_true (notLess.symm.trans isLess)

namespace Front

/-- How far a merge of two lists is. -/
structure At (first second : List α) (i j : Nat) (front : Front α) : Prop where
  first_eq : front.first = first.drop i
  second_eq : front.second = second.drop j
  taken_perm : front.taken.Perm (first.take i ++ second.take j)
  i_le : i ≤ first.length
  j_le : j ≤ second.length

variable {first second : List α} {i j : Nat} {front : Front α}

theorem at_start (first second : List α) : (mk first second []).At first second 0 0 :=
  ⟨rfl, rfl, List.Perm.refl [], Nat.zero_le _, Nat.zero_le _⟩

theorem At.takeFirst_eq (here : front.At first second i j) (more : i < first.length) :
    front.takeFirst = ⟨first.drop (i + 1), front.second, first[i] :: front.taken⟩ := by
  have cut : front.first = first[i] :: first.drop (i + 1) := by
    rw [here.first_eq, List.drop_eq_getElem_cons more]
  rw [Front.takeFirst, cut]

theorem At.takeSecond_eq (here : front.At first second i j) (more : j < second.length) :
    front.takeSecond = ⟨front.first, second.drop (j + 1), second[j] :: front.taken⟩ := by
  have cut : front.second = second[j] :: second.drop (j + 1) := by
    rw [here.second_eq, List.drop_eq_getElem_cons more]
  rw [Front.takeSecond, cut]

theorem At.takeFirst (here : front.At first second i j) (more : i < first.length) :
    front.takeFirst.At first second (i + 1) j := by
  rw [here.takeFirst_eq more]
  refine ⟨rfl, here.second_eq, ?_, more, here.j_le⟩
  rw [List.take_succ_eq_append_getElem more, List.append_assoc]
  exact (here.taken_perm.cons _).trans List.perm_middle.symm

theorem At.takeSecond (here : front.At first second i j) (more : j < second.length) :
    front.takeSecond.At first second i (j + 1) := by
  rw [here.takeSecond_eq more]
  refine ⟨here.first_eq, rfl, ?_, here.i_le, more⟩
  rw [List.take_succ_eq_append_getElem more, ← List.append_assoc]
  exact (here.taken_perm.cons _).trans (List.perm_append_singleton _ _).symm

theorem exists_takeFirst (here : ∃ i j, front.At first second i j) :
    ∃ i j, front.takeFirst.At first second i j := by
  obtain ⟨i, j, here⟩ := here
  by_cases more : i < first.length
  · exact ⟨i + 1, j, here.takeFirst more⟩
  · have ended : front.first = [] := by rw [here.first_eq, List.drop_eq_nil_of_le (by omega)]
    rw [takeFirst, ended]
    exact ⟨i, j, here⟩

theorem exists_takeSecond (here : ∃ i j, front.At first second i j) :
    ∃ i j, front.takeSecond.At first second i j := by
  obtain ⟨i, j, here⟩ := here
  by_cases more : j < second.length
  · exact ⟨i, j + 1, here.takeSecond more⟩
  · have ended : front.second = [] := by rw [here.second_eq, List.drop_eq_nil_of_le (by omega)]
    rw [takeSecond, ended]
    exact ⟨i, j, here⟩

theorem always_advance (secondFirst : α → α → Comparing α Bool)
    (here : ∃ i j, front.At first second i j) :
    (front.advance secondFirst).Always fun next => ∃ i j, next.At first second i j := by
  rw [advance]
  split
  · refine Always.bind' fun answer => ?_
    cases answer
    · exact exists_takeFirst here
    · exact exists_takeSecond here
  · trivial

/-- How far an ordered merge of two lists is. -/
structure OrderedAt (lt : α → α → Bool) (first second : List α) (i j : Nat) (front : Front α) : Prop
    extends front.At first second i j, Split lt first second i j where
  inOrder : InOrder lt front.taken.reverse

theorem orderedAt_start (lt : α → α → Bool) (first second : List α) :
    (mk first second []).OrderedAt lt first second 0 0 where
  toAt := at_start first second
  low := fun _ none => absurd none List.not_mem_nil
  high := fun _ none => absurd none List.not_mem_nil
  inOrder := InOrder.nil

/-- Taking an item keeps the order if nothing that has been taken comes behind it. -/
theorem OrderedAt.inOrder_cons (here : front.OrderedAt lt first second i j) {item : α}
    (notFirst : ∀ early ∈ first.take i, lt item early = false)
    (notSecond : ∀ early ∈ second.take j, lt item early = false) :
    InOrder lt (item :: front.taken).reverse := by
  rw [List.reverse_cons]
  refine here.inOrder.append (List.pairwise_singleton _ _) ?_
  intro early taken late isItem
  rw [List.mem_singleton] at isItem
  rw [isItem]
  rw [List.mem_reverse, here.taken_perm.mem_iff, List.mem_append] at taken
  exact taken.elim (notFirst early) (notSecond early)

theorem OrderedAt.inOrder_takeFirst (order : StrictWeak lt) (firstOrdered : InOrder lt first)
    (here : front.OrderedAt lt first second i j) (iLt : i < first.length) :
    InOrder lt front.takeFirst.taken.reverse := by
  have here_i : first[i] ∈ first.drop i := mem_drop_of_le iLt (Nat.le_refl i)
  rw [here.toAt.takeFirst_eq iLt]
  exact here.inOrder_cons (fun early before => firstOrdered.not_lt before here_i)
    fun early before => order.asymm (here.high early before _ here_i)

theorem OrderedAt.inOrder_takeSecond (secondOrdered : InOrder lt second)
    (here : front.OrderedAt lt first second i j) (jLt : j < second.length) :
    InOrder lt front.takeSecond.taken.reverse := by
  have here_j : second[j] ∈ second.drop j := mem_drop_of_le jLt (Nat.le_refl j)
  rw [here.toAt.takeSecond_eq jLt]
  exact here.inOrder_cons (fun early before => here.low early before _ here_j)
    fun early before => secondOrdered.not_lt before here_j

theorem OrderedAt.takeFirst (order : StrictWeak lt) (firstOrdered : InOrder lt first)
    (secondOrdered : InOrder lt second) (here : front.OrderedAt lt first second i j)
    (iLt : i < first.length) (jLt : j < second.length)
    (notLess : lt second[j] first[i] = false) :
    front.takeFirst.OrderedAt lt first second (i + 1) j where
  toAt := here.toAt.takeFirst iLt
  low := by
    intro early earlyMem late lateMem
    rw [List.take_succ_eq_append_getElem iLt, List.mem_append, List.mem_singleton] at earlyMem
    rcases earlyMem with before | rfl
    · exact here.low early before late lateMem
    · rw [List.drop_eq_getElem_cons jLt, List.mem_cons] at lateMem
      rcases lateMem with rfl | behind
      · exact notLess
      · exact order.not_lt_trans
          (secondOrdered.not_lt (mem_take_of_lt jLt (Nat.lt_succ_self j)) behind) notLess
  high := fun early earlyMem late lateMem =>
    here.high early earlyMem late (List.mem_of_mem_drop (by rwa [List.drop_drop]))
  inOrder := here.inOrder_takeFirst order firstOrdered iLt

theorem OrderedAt.takeSecond (order : StrictWeak lt) (firstOrdered : InOrder lt first)
    (secondOrdered : InOrder lt second) (here : front.OrderedAt lt first second i j)
    (iLt : i < first.length) (jLt : j < second.length)
    (isLess : lt second[j] first[i] = true) :
    front.takeSecond.OrderedAt lt first second i (j + 1) where
  toAt := here.toAt.takeSecond jLt
  low := fun early earlyMem late lateMem =>
    here.low early earlyMem late (List.mem_of_mem_drop (by rwa [List.drop_drop]))
  high := by
    intro early earlyMem late lateMem
    rw [List.take_succ_eq_append_getElem jLt, List.mem_append, List.mem_singleton] at earlyMem
    rcases earlyMem with before | rfl
    · exact here.high early before late lateMem
    · rw [List.drop_eq_getElem_cons iLt, List.mem_cons] at lateMem
      rcases lateMem with rfl | behind
      · exact isLess
      · exact order.lt_of_lt_of_not_lt isLess
          (firstOrdered.not_lt (mem_take_of_lt iLt (Nat.lt_succ_self i)) behind)
  inOrder := here.inOrder_takeSecond secondOrdered jLt

/-- A merge that has taken some items in order takes one more.  `dir` is the order in which it goes,
which is that of the answers or its opposite. -/
theorem OrderedAt.gives_advance {dir : α → α → Bool} {secondFirst : α → α → Comparing α Bool}
    (answers : ∀ x y, (secondFirst x y).Gives lt (· = dir y x)) (order : StrictWeak dir)
    (firstOrdered : InOrder dir first) (secondOrdered : InOrder dir second)
    (here : front.OrderedAt dir first second i j) (iLt : i < first.length)
    (jLt : j < second.length) :
    (front.advance secondFirst).Gives lt fun next =>
      ∃ i' j', next.OrderedAt dir first second i' j' ∧ i' + j' = i + j + 1 := by
  rw [advance, here.first_eq, here.second_eq, List.drop_eq_getElem_cons iLt,
    List.drop_eq_getElem_cons jLt]
  refine (answers first[i] second[j]).bind ?_
  rintro answer rfl
  cases answer : dir second[j] first[i]
  · exact ⟨i + 1, j, here.takeFirst order firstOrdered secondOrdered iLt jLt answer, by omega⟩
  · exact ⟨i, j + 1, here.takeSecond order firstOrdered secondOrdered iLt jLt answer, by omega⟩

end Front

theorem always_approach {first second firstBack secondBack : List α} (steps : Nat)
    {front back : Front α} (frontAt : ∃ i j, front.At first second i j)
    (backAt : ∃ i j, back.At firstBack secondBack i j) :
    (approach steps front back).Always fun ends =>
      (∃ i j, ends.1.At first second i j) ∧ ∃ i j, ends.2.At firstBack secondBack i j := by
  induction steps generalizing front back with
  | zero => exact ⟨frontAt, backAt⟩
  | succ steps ih =>
      refine (Front.always_advance _ frontAt).bind fun front frontAt => ?_
      exact (Front.always_advance _ backAt).bind fun back backAt => ih frontAt backAt

theorem gives_approach (order : StrictWeak lt) {left right : List α}
    (leftOrdered : InOrder lt left) (rightOrdered : InOrder lt right) (steps : Nat) {i j p q : Nat}
    {front back : Front α} (frontAt : front.OrderedAt lt left right i j)
    (backAt : back.OrderedAt (fun left right => lt right left) right.reverse left.reverse p q)
    (frontLeft : i + j + steps ≤ left.length) (frontRight : i + j + steps ≤ right.length)
    (backLeft : p + q + steps ≤ left.length) (backRight : p + q + steps ≤ right.length) :
    (approach steps front back).Gives lt fun ends =>
      ∃ i' j' p' q', ends.1.OrderedAt lt left right i' j' ∧
        ends.2.OrderedAt (fun left right => lt right left) right.reverse left.reverse p' q' ∧
        i' + j' = i + j + steps ∧ p' + q' = p + q + steps := by
  induction steps generalizing front back i j p q with
  | zero => exact ⟨i, j, p, q, frontAt, backAt, rfl, rfl⟩
  | succ steps ih =>
      refine (frontAt.gives_advance (fun x y => (gives_less y x).mpr rfl) order leftOrdered
        rightOrdered (by omega) (by omega)).bind ?_
      rintro front ⟨i', j', frontAt, frontCount⟩
      refine (backAt.gives_advance (fun x y => (gives_less x y).mpr rfl) order.swap
        rightOrdered.reverse leftOrdered.reverse (by rw [List.length_reverse]; omega)
        (by rw [List.length_reverse]; omega)).bind ?_
      rintro back ⟨p', q', backAt, backCount⟩
      refine (ih frontAt backAt (by omega) (by omega) (by omega) (by omega)).mono ?_
      rintro ends ⟨i'', j'', p'', q'', frontEnd, backEnd, frontSteps, backSteps⟩
      exact ⟨i'', j'', p'', q'', frontEnd, backEnd, by omega, by omega⟩

theorem Front.At.back_le {left right : List α} {p q : Nat} {back : Front α}
    (backAt : back.At right.reverse left.reverse p q) : p ≤ right.length ∧ q ≤ left.length := by
  simpa only [List.length_reverse] using And.intro backAt.i_le backAt.j_le

/-- What is left of two lists, where the front has taken some items and the back all other ones. -/
theorem perm_of_ends {left right : List α} {i j p q : Nat} {front back : Front α}
    (frontAt : front.At left right i j) (backAt : back.At right.reverse left.reverse p q)
    (lefts : i + q = left.length) (rights : j + p = right.length) :
    (front.taken.reverse ++ back.taken).Perm (left ++ right) := by
  have backTaken : back.taken.Perm (left.drop i ++ right.drop j) := by
    refine backAt.taken_perm.trans ?_
    rw [List.take_reverse, List.take_reverse, show left.length - q = i by omega,
      show right.length - p = j by omega]
    exact List.perm_append_comm.trans
      ((List.reverse_perm _).append (List.reverse_perm _))
  have shuffled : ((left.take i ++ right.take j) ++ (left.drop i ++ right.drop j)).Perm
      ((left.take i ++ left.drop i) ++ (right.take j ++ right.drop j)) := by
    rw [List.append_assoc, List.append_assoc]
    exact (List.perm_append_comm_assoc _ _ _).append_left _
  rw [List.take_append_drop, List.take_append_drop] at shuffled
  exact (((List.reverse_perm _).trans frontAt.taken_perm).append backTaken).trans shuffled

theorem inOrder_of_ends (order : StrictWeak lt) {left right : List α} {i j p q : Nat}
    {front back : Front α} (leftOrdered : InOrder lt left) (rightOrdered : InOrder lt right)
    (split : Split lt left right i j) (frontAt : front.At left right i j)
    (frontOrdered : InOrder lt front.taken.reverse)
    (backAt : back.At right.reverse left.reverse p q)
    (backOrdered : InOrder (fun left right => lt right left) back.taken.reverse)
    (lefts : i + q = left.length) (rights : j + p = right.length) :
    InOrder lt (front.taken.reverse ++ back.taken) := by
  refine frontOrdered.append (by simpa using backOrdered.reverse) ?_
  intro early earlyMem late lateMem
  rw [List.mem_reverse, frontAt.taken_perm.mem_iff, List.mem_append] at earlyMem
  rw [backAt.taken_perm.mem_iff, List.take_reverse, List.take_reverse,
    show left.length - q = i by omega, show right.length - p = j by omega, List.mem_append,
    List.mem_reverse, List.mem_reverse] at lateMem
  rcases earlyMem with earlyLeft | earlyRight <;> rcases lateMem with lateRight | lateLeft
  · exact split.low early earlyLeft late lateRight
  · exact leftOrdered.not_lt earlyLeft lateLeft
  · exact rightOrdered.not_lt earlyRight lateRight
  · exact order.asymm (split.high early earlyRight late lateLeft)

/-- What the back has left splits the lists as well. -/
theorem Split.of_back {left right : List α} {p q : Nat}
    (split : Split (fun left right => lt right left) right.reverse left.reverse p q) :
    Split lt left right (left.length - q) (right.length - p) where
  low := fun early earlyMem late lateMem =>
    split.low late (by rwa [List.take_reverse, List.mem_reverse]) early
      (by rwa [List.drop_reverse, List.mem_reverse])
  high := fun early earlyMem late lateMem =>
    split.high late (by rwa [List.take_reverse, List.mem_reverse]) early
      (by rwa [List.drop_reverse, List.mem_reverse])

theorem always_meet {left right : List α} {front back : Front α}
    (frontAt : ∃ i j, front.At left right i j)
    (backAt : ∃ i j, back.At right.reverse left.reverse i j) :
    (meet left.length right.length front back).Always (·.Perm (left ++ right)) := by
  have middleAt : ∃ i j, (takeMiddle left.length right.length front back).At left right i j := by
    rw [takeMiddle]
    split_ifs
    · exact frontAt
    · exact Front.exists_takeFirst frontAt
    · exact Front.exists_takeSecond frontAt
  rw [meet]
  generalize takeMiddle left.length right.length front back = middle at middleAt
  obtain ⟨i, j, here⟩ := middleAt
  obtain ⟨p, q, there⟩ := backAt
  split
  · rename_i met
    rw [here.first_eq, here.second_eq, there.first_eq, there.second_eq] at met
    simp only [List.length_drop, List.length_reverse] at met
    have iLe := here.i_le
    have jLe := here.j_le
    obtain ⟨pLe, qLe⟩ := there.back_le
    exact perm_of_ends here there (by omega) (by omega)
  · trivial

/-- Once the item in the middle is taken, the front has come to where the back is. -/
theorem takeMiddle_at (order : StrictWeak lt) {left right : List α} (leftOrdered : InOrder lt left)
    (rightOrdered : InOrder lt right) {i j p q : Nat} {front back : Front α}
    (frontAt : front.OrderedAt lt left right i j)
    (backAt : back.OrderedAt (fun left right => lt right left) right.reverse left.reverse p q)
    (frontCount : i + j = left.length) (backCount : p + q = left.length)
    (atLeast : left.length ≤ right.length) (atMost : right.length ≤ left.length + 1) :
    (takeMiddle left.length right.length front back).At left right (left.length - q)
        (right.length - p) ∧
      InOrder lt (takeMiddle left.length right.length front back).taken.reverse := by
  obtain ⟨pLe, qLe⟩ := backAt.toAt.back_le
  obtain ⟨iLe, jLe⟩ := frontAt.toSplit.le backAt.toSplit.of_back (by omega) frontAt.i_le
    frontAt.j_le (by omega) (by omega)
  rw [takeMiddle, frontAt.first_eq, backAt.second_eq, List.length_drop, List.length_drop,
    List.length_reverse]
  split_ifs with even inLeft
  · rw [show left.length - q = i by omega, show right.length - p = j by omega]
    exact ⟨frontAt.toAt, frontAt.inOrder⟩
  · have iLt : i < left.length := by omega
    rw [show left.length - q = i + 1 by omega, show right.length - p = j by omega]
    exact ⟨frontAt.toAt.takeFirst iLt, frontAt.inOrder_takeFirst order leftOrdered iLt⟩
  · have jLt : j < right.length := by omega
    rw [show left.length - q = i by omega, show right.length - p = j + 1 by omega]
    exact ⟨frontAt.toAt.takeSecond jLt, frontAt.inOrder_takeSecond rightOrdered jLt⟩

theorem gives_meet (order : StrictWeak lt) {left right : List α} (leftOrdered : InOrder lt left)
    (rightOrdered : InOrder lt right) {i j p q : Nat} {front back : Front α}
    (frontAt : front.OrderedAt lt left right i j)
    (backAt : back.OrderedAt (fun left right => lt right left) right.reverse left.reverse p q)
    (frontCount : i + j = left.length) (backCount : p + q = left.length)
    (atLeast : left.length ≤ right.length) (atMost : right.length ≤ left.length + 1) :
    (meet left.length right.length front back).Gives lt (InOrder lt) := by
  obtain ⟨middleAt, middleOrdered⟩ := takeMiddle_at order leftOrdered rightOrdered frontAt backAt
    frontCount backCount atLeast atMost
  obtain ⟨pLe, qLe⟩ := backAt.toAt.back_le
  rw [meet, if_pos, Gives]
  · exact inOrder_of_ends order leftOrdered rightOrdered backAt.toSplit.of_back middleAt
      middleOrdered backAt.toAt backAt.inOrder (by omega) (by omega)
  · rw [middleAt.first_eq, middleAt.second_eq, backAt.first_eq, backAt.second_eq]
    simp only [List.length_drop, List.length_reverse]
    omega

theorem always_mergeHalves (left right : List α) :
    (mergeHalves left right).Always (·.Perm (left ++ right)) := by
  refine (always_approach left.length ⟨0, 0, Front.at_start left right⟩
    ⟨0, 0, Front.at_start right.reverse left.reverse⟩).bind ?_
  rintro ⟨front, back⟩ ⟨frontAt, backAt⟩
  exact always_meet frontAt backAt

theorem gives_mergeHalves (order : StrictWeak lt) {left right : List α}
    (leftOrdered : InOrder lt left) (rightOrdered : InOrder lt right)
    (atLeast : left.length ≤ right.length) (atMost : right.length ≤ left.length + 1) :
    (mergeHalves left right).Gives lt (InOrder lt) := by
  refine (gives_approach order leftOrdered rightOrdered left.length
    (Front.orderedAt_start lt left right) (Front.orderedAt_start _ right.reverse left.reverse)
    (by omega) (by omega) (by omega) (by omega)).bind ?_
  rintro ends ⟨i, j, p, q, frontAt, backAt, frontCount, backCount⟩
  exact gives_meet order leftOrdered rightOrdered frontAt backAt (by omega) (by omega) atLeast
    atMost

/-! ## Merging from one end -/

theorem always_mergeOnto (secondFirst : α → α → Comparing α Bool) (first second taken : List α) :
    (mergeOnto secondFirst first second taken).Always (·.Perm (taken ++ (first ++ second))) := by
  fun_induction mergeOnto secondFirst first second taken with
  | case1 first firsts second seconds taken takeSecond takeFirst =>
      refine Always.bind' fun answer => ?_
      cases answer
      · exact takeFirst.mono fun result kept => kept.trans List.perm_middle.symm
      · refine takeSecond.mono fun result kept => kept.trans ?_
        exact List.perm_middle.symm.trans (List.perm_middle.symm.append_left taken)
  | case2 first second taken ended =>
      refine ((List.reverse_perm second).append
        ((List.reverse_perm first).append_right taken)).trans ?_
      rw [← List.append_assoc]
      exact List.perm_append_comm.trans (List.perm_append_comm.append_left taken)

/-- The rest of a merge that goes in the order `dir`. -/
theorem gives_mergeOnto {dir : α → α → Bool} {secondFirst : α → α → Comparing α Bool}
    (answers : ∀ x y, (secondFirst x y).Gives lt (· = dir y x)) (order : StrictWeak dir)
    {first second taken : List α} (firstOrdered : InOrder dir first)
    (secondOrdered : InOrder dir second) :
    (mergeOnto secondFirst first second taken).Gives lt fun result =>
      ∃ merged, result = merged.reverse ++ taken ∧ InOrder dir merged ∧
        merged.Perm (first ++ second) := by
  fun_induction mergeOnto secondFirst first second taken with
  | case1 x firsts y seconds taken takeSecond takeFirst =>
      have firstLeast := (List.pairwise_cons.mp firstOrdered).1
      have secondLeast := (List.pairwise_cons.mp secondOrdered).1
      refine (answers x y).bind ?_
      rintro answer rfl
      cases answer : dir y x
      · refine (takeFirst firstOrdered.of_cons secondOrdered).mono ?_
        rintro result ⟨merged, rfl, ordered, kept⟩
        refine ⟨x :: merged, by simp, ordered.cons fun later member => ?_, kept.cons x⟩
        rcases List.mem_append.mp (kept.mem_iff.mp member) with inFirst | inSecond
        · exact firstLeast later inFirst
        · rcases List.mem_cons.mp inSecond with rfl | behind
          · exact answer
          · exact order.not_lt_trans (secondLeast later behind) answer
      · refine (takeSecond firstOrdered secondOrdered.of_cons).mono ?_
        rintro result ⟨merged, rfl, ordered, kept⟩
        refine ⟨y :: merged, by simp, ordered.cons fun later member => ?_,
          (kept.cons y).trans List.perm_middle.symm⟩
        rcases List.mem_append.mp (kept.mem_iff.mp member) with inFirst | inSecond
        · rcases List.mem_cons.mp inFirst with rfl | behind
          · exact order.asymm answer
          · exact order.not_lt_trans (firstLeast later behind) (order.asymm answer)
        · exact secondLeast later inSecond
  | case2 first second taken ended =>
      refine ⟨first ++ second, by simp, ?_, List.Perm.refl _⟩
      cases first with
      | nil => exact secondOrdered
      | cons x firsts =>
          cases second with
          | nil => rwa [List.append_nil]
          | cons y seconds => exact (ended x firsts y seconds rfl rfl).elim

theorem always_merge (left right : List α) :
    (merge left right).Always (·.Perm (left ++ right)) := by
  rw [merge]
  split
  · refine (always_mergeOnto _ left right []).bind fun merged kept => ?_
    exact (List.reverse_perm merged).trans kept
  · refine (always_mergeOnto less right.reverse left.reverse []).mono fun merged kept => ?_
    exact (kept.trans ((List.reverse_perm right).append (List.reverse_perm left))).trans
      List.perm_append_comm

theorem gives_merge (order : StrictWeak lt) {left right : List α} (leftOrdered : InOrder lt left)
    (rightOrdered : InOrder lt right) : (merge left right).Gives lt (InOrder lt) := by
  rw [merge]
  split
  · refine (gives_mergeOnto (fun x y => (gives_less y x).mpr rfl) order leftOrdered
      rightOrdered).bind ?_
    rintro result ⟨merged, rfl, ordered, -⟩
    simpa using ordered
  · refine (gives_mergeOnto (fun x y => (gives_less x y).mpr rfl) order.swap rightOrdered.reverse
      leftOrdered.reverse).mono ?_
    rintro result ⟨merged, rfl, ordered, -⟩
    simpa using ordered.reverse

end Sorting

end TableFlow
