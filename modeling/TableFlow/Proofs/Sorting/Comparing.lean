import TableFlow.Sorting

/-!
# What a comparing computation asks and computes

Against a fixed comparison a computation asks a list of questions and computes a value or gives up.
Both depend on the answers to these questions only, so two comparisons that agree on what one of
them is asked lead to the same value.

There are two ways to say what is computed.  `Always` is about all values that some answers lead to,
and `Gives` says of one comparison that a value is computed at all.  Both are proved step by step
along the computation.
-/

namespace TableFlow

namespace Comparing

variable {α β γ σ : Type} {isLess other : α → α → Bool} {P Q : β → Prop}

/-- What is computed if the answers are those of a fixed comparison. -/
def value? (isLess : α → α → Bool) : Comparing α β → Option β
  | .done value => some value
  | .giveUp => none
  | .ask left right next => (next (isLess left right)).value? isLess

/-- The questions asked, if the answers are those of a fixed comparison. -/
def asked (isLess : α → α → Bool) : Comparing α β → List (α × α)
  | .done _ => []
  | .giveUp => []
  | .ask left right next => (left, right) :: (next (isLess left right)).asked isLess

/-- A comparison whose answers do not depend on its state computes what the fixed comparison does,
and its state has seen all the questions. -/
theorem run_eq {compare : α → α → σ → Ordering × σ} {order : α → α → Ordering}
    (settled : ∀ left right state, (compare left right state).1 = order left right)
    (computation : Comparing α β) (state : σ) :
    computation.run compare state =
      (computation.value? fun left right => order left right == .lt,
        (computation.asked fun left right => order left right == .lt).foldl
          (fun state pair => (compare pair.1 pair.2 state).2) state) := by
  induction computation generalizing state with
  | done value => rfl
  | giveUp => rfl
  | ask left right next ih =>
      rw [run, settled left right state]
      exact ih _ _

theorem value?_congr {computation : Comparing α β}
    (agree : ∀ pair ∈ computation.asked isLess, other pair.1 pair.2 = isLess pair.1 pair.2) :
    computation.value? other = computation.value? isLess := by
  induction computation with
  | done value => rfl
  | giveUp => rfl
  | ask left right next ih =>
      rw [asked, List.forall_mem_cons] at agree
      rw [value?, value?, agree.1]
      exact ih _ agree.2

/-- Whatever the answers are, a computed value has the property. -/
def Always (P : β → Prop) : Comparing α β → Prop
  | .done value => P value
  | .giveUp => True
  | .ask _ _ next => ∀ answer, (next answer).Always P

namespace Always

theorem of_value? {computation : Comparing α β} {value : β} (always : computation.Always P)
    (computed : computation.value? isLess = some value) : P value := by
  induction computation with
  | done value => exact Option.some.inj computed ▸ always
  | giveUp => cases computed
  | ask left right next ih => exact ih _ (always _) computed

theorem mono {computation : Comparing α β} (always : computation.Always P)
    (imp : ∀ value, P value → Q value) : computation.Always Q := by
  induction computation with
  | done value => exact imp value always
  | giveUp => trivial
  | ask left right next ih => exact fun answer => ih answer (always answer)

theorem bind {computation : Comparing α β} {rest : β → Comparing α γ} {R : γ → Prop}
    (always : computation.Always P) (after : ∀ value, P value → (rest value).Always R) :
    (computation >>= rest).Always R := by
  induction computation with
  | done value => exact after value always
  | giveUp => trivial
  | ask left right next ih => exact fun answer => ih answer (always answer)

/-- What holds of a value that is computed from any value at all. -/
theorem bind' {computation : Comparing α β} {rest : β → Comparing α γ} {R : γ → Prop}
    (after : ∀ value, (rest value).Always R) : (computation >>= rest).Always R := by
  induction computation with
  | done value => exact after value
  | giveUp => trivial
  | ask left right next ih => exact fun answer => ih answer

end Always

/-- Against the comparison a value is computed, and it has the property. -/
def Gives (isLess : α → α → Bool) (P : β → Prop) : Comparing α β → Prop
  | .done value => P value
  | .giveUp => False
  | .ask left right next => (next (isLess left right)).Gives isLess P

namespace Gives

theorem exists_value? {computation : Comparing α β} (gives : computation.Gives isLess P) :
    ∃ value, computation.value? isLess = some value ∧ P value := by
  induction computation with
  | done value => exact ⟨value, rfl, gives⟩
  | giveUp => exact gives.elim
  | ask left right next ih => exact ih _ gives

theorem mono {computation : Comparing α β} (gives : computation.Gives isLess P)
    (imp : ∀ value, P value → Q value) : computation.Gives isLess Q := by
  induction computation with
  | done value => exact imp value gives
  | giveUp => exact gives
  | ask left right next ih => exact ih _ gives

/-- What holds of all values holds of the computed one. -/
theorem and {computation : Comparing α β} (gives : computation.Gives isLess P)
    (always : computation.Always Q) : computation.Gives isLess fun value => P value ∧ Q value := by
  induction computation with
  | done value => exact ⟨gives, always⟩
  | giveUp => exact gives
  | ask left right next ih => exact ih _ gives (always _)

theorem bind {computation : Comparing α β} {rest : β → Comparing α γ} {R : γ → Prop}
    (gives : computation.Gives isLess P) (after : ∀ value, P value → (rest value).Gives isLess R) :
    (computation >>= rest).Gives isLess R := by
  induction computation with
  | done value => exact after value gives
  | giveUp => exact gives.elim
  | ask left right next ih => exact ih _ gives

end Gives

@[simp] theorem always_pure (value : β) : (pure value : Comparing α β).Always P ↔ P value :=
  Iff.rfl

@[simp] theorem gives_pure (value : β) :
    (pure value : Comparing α β).Gives isLess P ↔ P value :=
  Iff.rfl

@[simp] theorem gives_less {P : Bool → Prop} (left right : α) :
    (less left right).Gives isLess P ↔ P (isLess left right) :=
  Iff.rfl

end Comparing

end TableFlow
