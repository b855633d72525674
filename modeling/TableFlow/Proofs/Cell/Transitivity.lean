import TableFlow.Proofs.Cell.Order
import TableFlow.Proofs.Number.Order

/-!
# Where the order of cells is transitive

Integers compare exactly with each other, but as rounded floats with floats.  So a float can be
equal to two integers of which one is less than the other: it blurs them.  Three such cells break
the order, whichever of them stands in the middle, and no other three cells do.  A float that blurs
two integers lies beyond `2 ^ 53`.

Main statement: `Cell.isTransitive_iff`.
-/

namespace TableFlow

namespace Cell

/-- A cell compares with another one and does not come after it. -/
def NotAfter (left right : Cell) : Prop :=
  left.compare? right = some .lt ∨ left.compare? right = some .eq

/-- What a transitive order says about three cells: if none comes after the next one, the first one
does not come after the last one, and is equal to it only if all are equal. -/
def IsTransitive (first second third : Cell) : Prop :=
  first.NotAfter second → second.NotAfter third →
    first.NotAfter third ∧
      (first.compare? third = some .eq →
        first.compare? second = some .eq ∧ second.compare? third = some .eq)

/-- Two integers and a float that is equal to both of them. -/
inductive Blurs : Cell → Cell → Cell → Prop where
  | intro {less greater : Int64} {value : Float} (apart : less < greater)
      (equalsLess : (floatOf less == value) = true)
      (equalsGreater : (floatOf greater == value) = true) :
      Blurs (.integer less) (.integer greater) (.float value)

theorem notAfter_iff {left right : Cell} :
    left.NotAfter right ↔ ∃ ordering, left.compare? right = some ordering ∧ ordering ≠ .gt := by
  constructor
  · rintro (less | equal)
    · exact ⟨.lt, less, by decide⟩
    · exact ⟨.eq, equal, by decide⟩
  · rintro ⟨ordering, compared, notGreater⟩
    cases ordering with
    | lt => exact .inl compared
    | eq => exact .inr compared
    | gt => exact absurd rfl notGreater

section Steps

variable {first second third : Cell}

/-- Where two steps that do not go down make one, the order is transitive. -/
theorem isTransitive_of_then
    (steps : ∀ before after, first.compare? second = some before →
      second.compare? third = some after →
      before ≠ .gt → after ≠ .gt → first.compare? third = some (before.then after)) :
    IsTransitive first second third := by
  intro firstSecond secondThird
  obtain ⟨before, isBefore, notBefore⟩ := notAfter_iff.1 firstSecond
  obtain ⟨after, isAfter, notAfter⟩ := notAfter_iff.1 secondThird
  rw [notAfter_iff, steps before after isBefore isAfter notBefore notAfter, isBefore, isAfter]
  cases before <;> cases after <;> simp_all

theorem isTransitive_of_none (apart : first.compare? second = none ∨ second.compare? third = none) :
    IsTransitive first second third := by
  apply isTransitive_of_then
  intro before after isBefore isAfter
  rcases apart with apart | apart
  · rw [apart] at isBefore
    cases isBefore
  · rw [apart] at isAfter
    cases isAfter

/-- Cells that are no numbers compare by the values they hold. -/
theorem isTransitive_of_plain (plain : first.number? = none) : IsTransitive first second third := by
  apply isTransitive_of_then
  intro before after isBefore isAfter notBefore notAfter
  cases first
  case integer | float => cases plain
  case null =>
    rw [compare?_null_left] at isBefore
    cases isBefore
  all_goals
    cases second <;> cases isBefore
    cases third <;> cases isAfter
    exact congrArg some (Number.compare_then notBefore notAfter)

end Steps

theorem isTransitive_integers (first second third : Int64) :
    IsTransitive (.integer first) (.integer second) (.integer third) := by
  apply isTransitive_of_then
  intro before after isBefore isAfter notBefore notAfter
  cases isBefore
  cases isAfter
  exact congrArg some (Number.compare_then notBefore notAfter)

theorem compareFloats?_then {first second third : Float} {before after : Ordering}
    (isBefore : compareFloats? first second = some before)
    (isAfter : compareFloats? second third = some after) (notBefore : before ≠ .gt)
    (notAfter : after ≠ .gt) :
    compareFloats? first third = some (before.then after) := by
  rw [compareFloats?_eq] at isBefore isAfter ⊢
  exact Number.compare_unpacked_then isBefore isAfter notBefore notAfter

/-- Numbers of which no two are integers compare as floats. -/
theorem isTransitive_floats (first second third : Float) :
    IsTransitive (.float first) (.float second) (.float third) := by
  apply isTransitive_of_then
  intro before after isBefore isAfter notBefore notAfter
  exact compareFloats?_then isBefore isAfter notBefore notAfter

theorem compareFloats?_eq_some_eq_iff {left right : Float} :
    compareFloats? left right = some .eq ↔ (left == right) = true := by
  rw [compareFloats?_eq]
  exact beq_iff_eq.symm

theorem compareFloats?_floatOf (left right : Int64) :
    compareFloats? (floatOf left) (floatOf right) =
      some (compare (Number.nearest left.toInt) (Number.nearest right.toInt)) := by
  have small (word : Int64) : word.toInt.natAbs < 2 ^ 64 := by
    have := word.le_toInt
    have := word.toInt_lt
    omega
  rw [compareFloats?_eq]
  exact Number.compare_ofInt (small left) (small right)

theorem notAfter_integers_iff {left right : Int64} :
    NotAfter (.integer left) (.integer right) ↔ left ≤ right := by
  rw [notAfter_iff, Int64.le_iff_toInt_le]
  simp only [compare?, Option.some.injEq, exists_eq_left', ne_eq, Int.compare_eq_gt, Int.not_lt]

/-- Rounding does not turn the order of two integers around. -/
theorem notAfter_floatOf {left right : Int64} (le : left ≤ right) :
    NotAfter (.float (floatOf left)) (.float (floatOf right)) := by
  rw [notAfter_iff]
  refine ⟨_, compareFloats?_floatOf left right, ?_⟩
  rw [ne_eq, Int.compare_eq_gt, Int.not_lt]
  exact Number.nearest_mono (Int64.le_iff_toInt_le.1 le)

theorem NotAfter.antisymm {left right : Cell} (before : left.NotAfter right)
    (after : right.NotAfter left) :
    left.compare? right = some .eq := by
  rcases before with less | equal
  · rw [NotAfter, compare?_swap left right, less] at after
    exact absurd after (by decide)
  · exact equal

theorem compare?_eq_symm {left right : Cell} (equal : left.compare? right = some .eq) :
    right.compare? left = some .eq :=
  compare?_eq_some_swap_iff.2 equal

theorem compare?_integers_eq_iff {left right : Int64} :
    (Cell.integer left).compare? (.integer right) = some .eq ↔ left = right := by
  simp only [compare?, Option.some.injEq, Int.compare_eq_eq, Int64.toInt_inj]

theorem isTransitive_integers_float {first second : Int64} {third : Float}
    (clear : ¬ Blurs (.integer first) (.integer second) (.float third)) :
    IsTransitive (.integer first) (.integer second) (.float third) := by
  intro firstSecond secondThird
  have le := notAfter_integers_iff.1 firstSecond
  obtain ⟨notAfter, ties⟩ :=
    isTransitive_floats (floatOf first) (floatOf second) third (notAfter_floatOf le) secondThird
  refine ⟨notAfter, ?_⟩
  intro firstThird
  have equal := (ties firstThird).2
  refine ⟨compare?_integers_eq_iff.2 ?_, equal⟩
  by_contra apart
  exact clear ⟨Int64.lt_of_le_of_ne le apart, compareFloats?_eq_some_eq_iff.1 firstThird,
    compareFloats?_eq_some_eq_iff.1 equal⟩

theorem isTransitive_float_integers {first : Float} {second third : Int64}
    (clear : ¬ Blurs (.integer second) (.integer third) (.float first)) :
    IsTransitive (.float first) (.integer second) (.integer third) := by
  intro firstSecond secondThird
  have le := notAfter_integers_iff.1 secondThird
  obtain ⟨notAfter, ties⟩ :=
    isTransitive_floats first (floatOf second) (floatOf third) firstSecond (notAfter_floatOf le)
  refine ⟨notAfter, ?_⟩
  intro firstThird
  have equal := (ties firstThird).1
  refine ⟨equal, compare?_integers_eq_iff.2 ?_⟩
  by_contra apart
  exact clear ⟨Int64.lt_of_le_of_ne le apart,
    compareFloats?_eq_some_eq_iff.1 (compare?_eq_symm equal),
    compareFloats?_eq_some_eq_iff.1 (compare?_eq_symm firstThird)⟩

theorem isTransitive_integer_float_integer {first third : Int64} {second : Float}
    (clear : ¬ Blurs (.integer third) (.integer first) (.float second)) :
    IsTransitive (.integer first) (.float second) (.integer third) := by
  intro firstSecond secondThird
  obtain ⟨notAfter, ties⟩ :=
    isTransitive_floats (floatOf first) second (floatOf third) firstSecond secondThird
  have le : first ≤ third := by
    by_contra reversed
    have less : third < first := Int64.not_le.1 reversed
    obtain ⟨firstEqual, thirdEqual⟩ :=
      ties (notAfter.antisymm (notAfter_floatOf (Int64.le_of_lt less)))
    exact clear ⟨less, compareFloats?_eq_some_eq_iff.1 (compare?_eq_symm thirdEqual),
      compareFloats?_eq_some_eq_iff.1 firstEqual⟩
  refine ⟨notAfter_integers_iff.2 le, ?_⟩
  intro firstThird
  obtain rfl := compare?_integers_eq_iff.1 firstThird
  exact ties (notAfter.antisymm notAfter)

theorem exists_of_numeric {cell : Cell} (numeric : cell.number? ≠ none) :
    (∃ word, cell = .integer word) ∨ ∃ value, cell = .float value := by
  cases cell with
  | integer word => exact .inl ⟨word, rfl⟩
  | float value => exact .inr ⟨value, rfl⟩
  | _ => exact absurd rfl numeric

theorem compare?_eq_none_of_plain {left right : Cell} (numeric : left.number? ≠ none)
    (plain : right.number? = none) : left.compare? right = none := by
  rcases exists_of_numeric numeric with ⟨word, rfl⟩ | ⟨value, rfl⟩
  all_goals
    cases right
    case integer | float => cases plain
    all_goals rfl

/-- Where not all cells are numbers, those that compare are no numbers. -/
theorem isTransitive_of_some_plain {first second third : Cell}
    (plain : first.number? = none ∨ second.number? = none ∨ third.number? = none) :
    IsTransitive first second third := by
  by_cases plainFirst : first.number? = none
  · exact isTransitive_of_plain plainFirst
  · by_cases plainSecond : second.number? = none
    · exact isTransitive_of_none (.inl (compare?_eq_none_of_plain plainFirst plainSecond))
    · have plainThird := (plain.resolve_left plainFirst).resolve_left plainSecond
      exact isTransitive_of_none (.inr (compare?_eq_none_of_plain plainSecond plainThird))

/-- Three cells of which none blurs the others are ordered transitively. -/
theorem isTransitive_of_clear {first second third : Cell}
    (clear : ¬ (Blurs first second third ∨ Blurs second third first ∨ Blurs third first second)) :
    IsTransitive first second third := by
  by_cases plain : first.number? = none ∨ second.number? = none ∨ third.number? = none
  · exact isTransitive_of_some_plain plain
  · rw [not_or, not_or] at plain clear
    obtain ⟨clearThird, clearFirst, clearSecond⟩ := clear
    rcases exists_of_numeric plain.1 with ⟨first, rfl⟩ | ⟨first, rfl⟩ <;>
      rcases exists_of_numeric plain.2.1 with ⟨second, rfl⟩ | ⟨second, rfl⟩ <;>
      rcases exists_of_numeric plain.2.2 with ⟨third, rfl⟩ | ⟨third, rfl⟩
    · exact isTransitive_integers first second third
    · exact isTransitive_integers_float clearThird
    · exact isTransitive_integer_float_integer clearSecond
    · exact isTransitive_floats (floatOf first) second third
    · exact isTransitive_float_integers clearFirst
    · exact isTransitive_floats first (floatOf second) third
    · exact isTransitive_floats first second (floatOf third)
    · exact isTransitive_floats first second third

section Blurred

variable {less greater value : Cell}

theorem Blurs.compare?_eq (blurs : Blurs less greater value) :
    less.compare? greater = some .lt ∧ less.compare? value = some .eq ∧
      greater.compare? value = some .eq := by
  cases blurs with
  | intro apart equalsLess equalsGreater =>
    exact ⟨congrArg some (Int.compare_eq_lt.2 (Int64.lt_iff_toInt_lt.1 apart)),
      compareFloats?_eq_some_eq_iff.2 equalsLess, compareFloats?_eq_some_eq_iff.2 equalsGreater⟩

/-- A blurred order is not transitive, whichever cell stands in the middle. -/
theorem Blurs.not_isTransitive (blurs : Blurs less greater value) :
    ¬ IsTransitive less greater value ∧ ¬ IsTransitive value less greater ∧
      ¬ IsTransitive greater value less := by
  obtain ⟨apart, equalsLess, equalsGreater⟩ := blurs.compare?_eq
  refine ⟨?_, ?_, ?_⟩
  · intro transitive
    have equal := (transitive (.inl apart) (.inr equalsGreater)).2 equalsLess
    rw [apart] at equal
    exact absurd equal.1 (by decide)
  · intro transitive
    have equal :=
      (transitive (.inr (compare?_eq_symm equalsLess)) (.inl apart)).2
        (compare?_eq_symm equalsGreater)
    rw [apart] at equal
    exact absurd equal.2 (by decide)
  · intro transitive
    have reversed := (transitive (.inr equalsGreater) (.inr (compare?_eq_symm equalsLess))).1
    rw [NotAfter, compare?_swap less greater, apart] at reversed
    exact absurd reversed (by decide)

/-- Integers that a float blurs are not both among those up to `2 ^ 53`, which all are floats. -/
theorem Blurs.exists_large (blurs : Blurs less greater value) :
    ∃ word : Int64, (less = .integer word ∨ greater = .integer word) ∧
      2 ^ 53 < word.toInt.natAbs := by
  obtain ⟨-, equalsLess, equalsGreater⟩ := blurs.compare?_eq
  have equalsGreater := compare?_eq_symm equalsGreater
  cases blurs with
  | @intro less greater value apart =>
    have equal : compareFloats? (floatOf less) (floatOf greater) = some .eq :=
      compareFloats?_then equalsLess equalsGreater (by decide) (by decide)
    rw [compareFloats?_floatOf, Option.some.injEq, Int.compare_eq_eq] at equal
    by_contra allSmall
    have smallLess : less.toInt.natAbs ≤ 2 ^ 53 :=
      Nat.le_of_not_lt fun large => allSmall ⟨less, .inl rfl, large⟩
    have smallGreater : greater.toInt.natAbs ≤ 2 ^ 53 :=
      Nat.le_of_not_lt fun large => allSmall ⟨greater, .inr rfl, large⟩
    rw [Number.nearest_of_small smallLess, Number.nearest_of_small smallGreater] at equal
    exact absurd equal (Int.ne_of_lt (Int64.lt_iff_toInt_lt.1 apart))

end Blurred

/-- The order of cells is transitive except where a float is equal to two different integers, which
takes an integer beyond `2 ^ 53`. -/
theorem isTransitive_iff (first second third : Cell) :
    (IsTransitive first second third ↔
        ¬ (Blurs first second third ∨ Blurs second third first ∨ Blurs third first second)) ∧
      ((∀ word, .integer word ∈ [first, second, third] → word.toInt.natAbs ≤ 2 ^ 53) →
        IsTransitive first second third) := by
  refine ⟨⟨?_, isTransitive_of_clear⟩, ?_⟩
  · rintro transitive (blurs | blurs | blurs)
    · exact blurs.not_isTransitive.1 transitive
    · exact blurs.not_isTransitive.2.1 transitive
    · exact blurs.not_isTransitive.2.2 transitive
  · intro small
    apply isTransitive_of_clear
    rintro (blurs | blurs | blurs)
    all_goals
      obtain ⟨word, rfl | rfl, large⟩ := blurs.exists_large
      all_goals exact Nat.not_le_of_lt large (small word (by simp))

/-- At the bound itself every integer is still a float of its own. -/
theorem isTransitive_iff_lastExact :
    (∀ word, Cell.integer word ∈
          [.integer 9007199254740991, .float 9007199254740992.0, .integer 9007199254740992] →
        word.toInt.natAbs ≤ 2 ^ 53) ∧
      IsTransitive (.integer 9007199254740991) (.float 9007199254740992.0)
        (.integer 9007199254740992) := by
  have small : ∀ word, Cell.integer word ∈
      [.integer 9007199254740991, .float 9007199254740992.0, .integer 9007199254740992] →
      word.toInt.natAbs ≤ 2 ^ 53 := by
    intro word inside
    simp only [List.mem_cons, integer.injEq, reduceCtorEq, List.not_mem_nil, or_false,
      false_or] at inside
    rcases inside with rfl | rfl <;> decide
  exact ⟨small, (isTransitive_iff _ _ _).2 small⟩

/-- The integer after `2 ^ 53` is rounded to it: the float `2 ^ 53` is equal to both. -/
theorem not_isTransitive_nextInteger :
    ¬ IsTransitive (.integer 9007199254740993) (.float 9007199254740992.0)
      (.integer 9007199254740992) := by
  intro transitive
  have notAfter := (transitive (.inr (by decide +kernel)) (.inr (by decide +kernel))).1
  revert notAfter
  simp only [NotAfter]
  decide +kernel

end Cell

end TableFlow
