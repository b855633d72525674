import TableFlow.Proofs.Condition.RoundTrip
import TableFlow.Transform.Basic

/-!
# Transforms read back

Each definition is written as a record with all of its fields, defaults included; only an optional
text that is missing is left out. Main statement: a transform that is decoded from a writable
document is restored by its written form.
-/

namespace TableFlow

open TableFlow.Json

instance : LawfulLabelled Conversion where
  ofLabel?_label value := by cases value <;> decide

instance : LawfulLabelled AggregateFunction where
  ofLabel?_label value := by cases value <;> decide

instance : LawfulLabelled DatePart where
  ofLabel?_label value := by cases value <;> decide

instance : LawfulLabelled TimeUnit where
  ofLabel?_label value := by cases value <;> decide

instance : LawfulLabelled Period where
  ofLabel?_label value := by cases value <;> decide

instance : LawfulLabelled EvolutionFormat where
  ofLabel?_label value := by cases value <;> decide

instance : LawfulLabelled RankOrder where
  ofLabel?_label value := by cases value <;> decide

instance : LawfulLabelled RankMethod where
  ofLabel?_label value := by cases value <;> decide

instance : LawfulLabelled Statistic where
  ofLabel?_label value := by cases value <;> decide

theorem Rename.stored (name : String) (rename : Rename) :
    Stored Rename.ofJson? (.object (("name", .string name) :: rename.fields)) rename := by
  constructor
  · simp [fields]
  · simp [ofJson?, fields, record?, onlyField?]

theorem Delete.stored (name : String) (delete : Delete) :
    Stored Delete.ofJson? (.object (("name", .string name) :: delete.fields)) delete := by
  constructor
  · simp [fields]
  · simp [ofJson?, fields, record?, onlyField?]

theorem Select.stored (name : String) (select : Select) :
    Stored Select.ofJson? (.object (("name", .string name) :: select.fields)) select := by
  constructor
  · simp [fields]
  · simp [ofJson?, fields, record?, onlyField?]

theorem Duplicate.stored (name : String) (duplicate : Duplicate) :
    Stored Duplicate.ofJson? (.object (("name", .string name) :: duplicate.fields)) duplicate := by
  constructor
  · simp [fields]
  · simp [ofJson?, fields, record?, onlyField?]

theorem Convert.stored (name : String) (convert : Convert) :
    Stored Convert.ofJson? (.object (("name", .string name) :: convert.fields)) convert := by
  constructor
  · simp [fields]
  · simp [ofJson?, fields, record?, onlyField?]

theorem Concatenate.stored (name : String) (concatenate : Concatenate) :
    Stored Concatenate.ofJson? (.object (("name", .string name) :: concatenate.fields))
      concatenate := by
  constructor
  · simp [fields]
  · simp [ofJson?, fields, record?, onlyField?]

theorem Derive.stored (name : String) (derive : Derive) :
    Stored Derive.ofJson? (.object (("name", .string name) :: derive.fields)) derive := by
  constructor
  · simp [fields]
  · simp [ofJson?, fields, record?, onlyField?]

theorem ConstantText.stored (name : String) (constant : ConstantText) :
    Stored ConstantText.ofJson? (.object (("name", .string name) :: constant.fields)) constant := by
  constructor
  · simp [fields]
  · simp [ofJson?, fields, record?, onlyField?]

theorem ChangeCase.stored (name : String) (change : ChangeCase) :
    Stored ChangeCase.ofJson? (.object (("name", .string name) :: change.fields)) change := by
  constructor
  · simp [fields]
  · simp [ofJson?, fields, record?, onlyField?]

theorem Duration.stored (name : String) (duration : Duration) :
    Stored Duration.ofJson? (.object (("name", .string name) :: duration.fields)) duration := by
  constructor
  · simp [fields]
  · simp [ofJson?, fields, record?, onlyField?]

theorem Extreme.stored (name : String) (extreme : Extreme) :
    Stored Extreme.ofJson? (.object (("name", .string name) :: extreme.fields)) extreme := by
  constructor
  · simp [fields]
  · simp [ofJson?, fields, record?, onlyField?]

theorem FormatDate.stored (name : String) (format : FormatDate) :
    Stored FormatDate.ofJson? (.object (("name", .string name) :: format.fields)) format := by
  constructor
  · simp [fields]
  · simp [ofJson?, fields, record?, onlyField?]

theorem ExtractDate.stored (name : String) (extract : ExtractDate) :
    Stored ExtractDate.ofJson? (.object (("name", .string name) :: extract.fields)) extract := by
  constructor
  · simp [fields]
  · simp [ofJson?, fields, record?, onlyField?]

theorem Pivot.stored (name : String) (pivot : Pivot) :
    Stored Pivot.ofJson? (.object (("name", .string name) :: pivot.fields)) pivot := by
  constructor
  · simp [fields]
  · simp [ofJson?, fields, record?, onlyField?]

theorem Rank.stored (name : String) (rank : Rank) :
    Stored Rank.ofJson? (.object (("name", .string name) :: rank.fields)) rank := by
  obtain ⟨column, order, method, groups, newColumn⟩ := rank
  cases newColumn with
  | none =>
      constructor
      · simp [fields, optionalField]
      · simp [ofJson?, fields, record?, onlyField?, optionalField]
  | some newColumn =>
      constructor
      · simp [fields, optionalField]
      · simp [ofJson?, fields, record?, onlyField?, optionalField]

theorem RunningSum.stored (name : String) (running : RunningSum) :
    Stored RunningSum.ofJson? (.object (("name", .string name) :: running.fields)) running := by
  obtain ⟨column, groups, newColumn⟩ := running
  cases newColumn with
  | none =>
      constructor
      · simp [fields, optionalField]
      · simp [ofJson?, fields, record?, onlyField?, optionalField]
  | some newColumn =>
      constructor
      · simp [fields, optionalField]
      · simp [ofJson?, fields, record?, onlyField?, optionalField]

theorem Share.stored (name : String) (share : Share) :
    Stored Share.ofJson? (.object (("name", .string name) :: share.fields)) share := by
  obtain ⟨column, groups, newColumn⟩ := share
  cases newColumn with
  | none =>
      constructor
      · simp [fields, optionalField]
      · simp [ofJson?, fields, record?, onlyField?, optionalField]
  | some newColumn =>
      constructor
      · simp [fields, optionalField]
      · simp [ofJson?, fields, record?, onlyField?, optionalField]

theorem Evolution.stored (name : String) (evolution : Evolution) :
    Stored Evolution.ofJson? (.object (("name", .string name) :: evolution.fields)) evolution := by
  obtain ⟨date, value, period, format, index, newColumn⟩ := evolution
  cases newColumn with
  | none =>
      constructor
      · simp [fields, optionalField]
      · simp [ofJson?, fields, record?, onlyField?, optionalField]
  | some newColumn =>
      constructor
      · simp [fields, optionalField]
      · simp [ofJson?, fields, record?, onlyField?, optionalField]

theorem Aggregation.stored (aggregation : Aggregation) :
    Stored Aggregation.ofJson? aggregation.toJson aggregation := by
  constructor
  · simp [toJson]
  · simp [ofJson?, toJson, record?, onlyField?]

theorem Aggregation.storedAll (aggregations : List Aggregation) :
    Stored (list? Aggregation.ofJson?) (.array (aggregations.map Aggregation.toJson))
      aggregations :=
  stored_list fun aggregation _ => aggregation.stored

theorem Aggregate.stored (name : String) (aggregate : Aggregate) :
    Stored Aggregate.ofJson? (.object (("name", .string name) :: aggregate.fields)) aggregate := by
  have aggregations := Aggregation.storedAll aggregate.aggregations
  constructor
  · simpa [fields] using aggregations.writable
  · simp [ofJson?, fields, record?, onlyField?, aggregations.decoded]

theorem Rollup.stored (name : String) (rollup : Rollup) :
    Stored Rollup.ofJson? (.object (("name", .string name) :: rollup.fields)) rollup := by
  have aggregations := Aggregation.storedAll rollup.aggregations
  constructor
  · simpa [fields] using aggregations.writable
  · simp [ofJson?, fields, record?, onlyField?, aggregations.decoded]

theorem FillNull.restores (name : String) :
    Restores FillNull.ofJson? fun fill => .object (("name", .string name) :: fill.fields) := by
  intro body fill writable decoded
  unfold ofJson? at decoded
  split at decoded
  · rename_i columns value read
    simp only [Option.bind_eq_bind, Option.bind_eq_some_iff, required_eq_some_iff, Option.pure_def,
      Option.some.injEq] at decoded
    obtain ⟨columns, _, cell, ⟨literal, rfl, found⟩, rfl⟩ := decoded
    have stored := Cell.restores (writable_of_record? writable read (by simp)) found
    constructor
    · simp [fields, stored.writable]
    · simp [ofJson?, fields, record?, onlyField?, stored.decoded]
  · contradiction

theorem Replace.restores (name : String) :
    Restores Replace.ofJson? fun replace => .object (("name", .string name) :: replace.fields) := by
  intro body replace writable decoded
  unfold ofJson? at decoded
  split at decoded
  · rename_i column pairs read
    simp only [Option.bind_eq_bind, Option.bind_eq_some_iff, required_eq_some_iff, Option.pure_def,
      Option.some.injEq] at decoded
    obtain ⟨column, _, pairs, ⟨literals, rfl, found⟩, rfl⟩ := decoded
    have stored : Stored (list? (pair? Cell.ofJson?))
        (.array (pairs.map fun pair => .array [pair.1.toJson, pair.2.toJson])) pairs :=
      Restores.list (Restores.pair Cell.restores) (writable_of_record? writable read (by simp))
        found
    constructor
    · simpa [fields] using stored.writable
    · simp [ofJson?, fields, record?, onlyField?, stored.decoded]
  · contradiction

theorem Filter.restores (name : String) :
    Restores Filter.ofJson? fun filter => .object (("name", .string name) :: filter.fields) := by
  intro body filter writable decoded
  unfold ofJson? at decoded
  split at decoded
  · rename_i test read
    obtain ⟨document, rfl, found⟩ := required_eq_some_iff.1 decoded
    rcases Option.or_eq_some_iff.1 found with condition | ⟨_, formula⟩
    · obtain ⟨test, accepted, rfl⟩ := Option.map_eq_some_iff.1 condition
      have stored := Condition.restores (writable_of_record? writable read (by simp)) accepted
      constructor
      · simp [fields, stored.writable]
      · simp [ofJson?, fields, record?, onlyField?, testOfJson?, stored.decoded]
    · obtain ⟨source, _, rfl⟩ := Option.map_eq_some_iff.1 formula
      constructor
      · simp [fields]
      · simp [ofJson?, fields, record?, onlyField?, testOfJson?]
  · contradiction

/-- A cell that is not stored as a text is not written as one. -/
theorem Cell.text?_toJson {document : Json} {cell : Cell}
    (decoded : Cell.ofJson? document = some cell) (notText : document.text? = none) :
    cell.toJson.text? = none := by
  cases document with
  | null =>
      cases decoded
      rfl
  | boolean value =>
      cases decoded
      rfl
  | integer value =>
      simp only [Cell.ofJson?] at decoded
      split at decoded <;> cases decoded <;> rfl
  | float value =>
      cases decoded
      rfl
  | string value => cases notText
  | array items => cases decoded
  | object fields => cases decoded

theorem Operand.restores : Restores Operand.ofJson? Operand.toJson := by
  intro document operand writable decoded
  rcases Option.or_eq_some_iff.1 decoded with text | ⟨noText, constant⟩
  · obtain ⟨source, found, rfl⟩ := Option.map_eq_some_iff.1 text
    exact ⟨.string source, rfl⟩
  · obtain ⟨cell, found, rfl⟩ := Option.map_eq_some_iff.1 constant
    have stored := Cell.restores writable found
    have notText := Cell.text?_toJson found (Option.map_eq_none_iff.1 noText)
    constructor
    · exact stored.writable
    · simp [ofJson?, toJson, notText, stored.decoded]

/-- An operand is not written as a record. -/
theorem Operand.record?_toJson (names : List String) (operand : Operand) :
    operand.toJson.record? names = none := by
  cases operand with
  | text source => rfl
  | constant cell => cases cell <;> rfl

/-- A choice between a value and a further chain, if a document stores one. -/
def Branch.choiceOfJson? (document : Json) : Option Branch :=
  match document.record? ["if", "then", "else"] with
  | some [some test, some accepted, some otherwise] => do
      return .choose (← Condition.ofJson? test) (← Operand.ofJson? accepted)
        (← Branch.ofJson? otherwise)
  | _ => none

/-- The two sorts of chains in the order in which they are tried. -/
theorem Branch.ofJson?_eq (document : Json) :
    Branch.ofJson? document =
      (choiceOfJson? document).or ((Operand.ofJson? document).map Branch.value) := by
  rw [Branch.ofJson?]
  congr 1
  unfold choiceOfJson?
  split <;> rename_i read <;> simp only [read]
  rename_i test accepted otherwise
  cases Condition.ofJson? test <;> cases Operand.ofJson? accepted <;>
    cases Branch.ofJson? otherwise <;> rfl

theorem Branch.restores : Restores Branch.ofJson? Branch.toJson := by
  intro document branch writable decoded
  rw [ofJson?_eq] at decoded
  rcases Option.or_eq_some_iff.1 decoded with choice | ⟨_, value⟩
  · unfold choiceOfJson? at choice
    split at choice
    · rename_i test accepted otherwise read
      simp only [Option.bind_eq_bind, Option.bind_eq_some_iff, Option.pure_def,
        Option.some.injEq] at choice
      obtain ⟨condition, conditionFound, operand, operandFound, branch, branchFound, rfl⟩ := choice
      have smaller : sizeOf otherwise < sizeOf document := sizeOf_of_record? read (by simp)
      have conditionStored :=
        Condition.restores (writable_of_record? writable read (by simp)) conditionFound
      have operandStored :=
        Operand.restores (writable_of_record? writable read (by simp)) operandFound
      have branchStored := restores (writable_of_record? writable read (by simp)) branchFound
      constructor
      · simp [toJson, conditionStored.writable, operandStored.writable, branchStored.writable]
      · rw [ofJson?_eq]
        simp [choiceOfJson?, toJson, record?, onlyField?, conditionStored.decoded,
          operandStored.decoded, branchStored.decoded]
    · contradiction
  · obtain ⟨operand, found, rfl⟩ := Option.map_eq_some_iff.1 value
    have stored := Operand.restores writable found
    constructor
    · exact stored.writable
    · rw [ofJson?_eq]
      simp [choiceOfJson?, toJson, Operand.record?_toJson, stored.decoded]
termination_by document => sizeOf document

theorem IfThenElse.restores (name : String) :
    Restores IfThenElse.ofJson? fun choice =>
      .object (("name", .string name) :: choice.fields) := by
  intro body choice writable decoded
  unfold ofJson? at decoded
  split at decoded
  · split at decoded
    · rename_i column test accepted otherwise read
      simp only [Option.bind_eq_bind, Option.bind_eq_some_iff, required_eq_some_iff,
        Option.pure_def, Option.some.injEq] at decoded
      obtain ⟨column, _, condition, ⟨_, rfl, conditionFound⟩, operand, ⟨_, rfl, operandFound⟩,
        branch, ⟨_, rfl, branchFound⟩, rfl⟩ := decoded
      have conditionStored :=
        Condition.restores (writable_of_record? writable read (by simp)) conditionFound
      have operandStored :=
        Operand.restores (writable_of_record? writable read (by simp)) operandFound
      have branchStored :=
        Branch.restores (writable_of_record? writable read (by simp)) branchFound
      constructor
      · simp [fields, conditionStored.writable, operandStored.writable, branchStored.writable]
      · simp [ofJson?, fields, record?, onlyField?, conditionStored.decoded,
          operandStored.decoded, branchStored.decoded]
    · contradiction
  · contradiction

theorem Quantile.restores : Restores Quantile.ofJson? Quantile.toJson := by
  intro document quantile writable decoded
  unfold ofJson? at decoded
  split at decoded
  · rename_i label nth order read
    simp only [Option.bind_eq_bind, Option.bind_eq_some_iff, required_eq_some_iff,
      Option.pure_def, Option.some.injEq] at decoded
    obtain ⟨label, _, nth, ⟨_, rfl, nthFound⟩, order, ⟨_, rfl, orderFound⟩, rfl⟩ := decoded
    have nthStored :=
      restores_natBelow? (by decide) (writable_of_record? writable read (by simp)) nthFound
    have orderStored :=
      restores_natBelow? (by decide) (writable_of_record? writable read (by simp)) orderFound
    cases label with
    | none =>
        constructor
        · simp [toJson, optionalField, nthStored.writable, orderStored.writable]
        · simp [ofJson?, toJson, optionalField, record?, onlyField?, nthStored.decoded,
            orderStored.decoded]
    | some label =>
        constructor
        · simp [toJson, optionalField, nthStored.writable, orderStored.writable]
        · simp [ofJson?, toJson, optionalField, record?, onlyField?, nthStored.decoded,
            orderStored.decoded]
  · contradiction

theorem Statistics.restores (name : String) :
    Restores Statistics.ofJson? fun statistics =>
      .object (("name", .string name) :: statistics.fields) := by
  intro body statistics writable decoded
  unfold ofJson? at decoded
  split at decoded
  · rename_i column keys chosen quantiles read
    simp only [Option.bind_eq_bind, Option.bind_eq_some_iff, Option.pure_def,
      Option.some.injEq] at decoded
    obtain ⟨column, _, keys, _, chosen, _, found, quantilesFound, rfl⟩ := decoded
    have stored : Stored (list? Quantile.ofJson?) (.array (found.map Quantile.toJson)) found := by
      apply Restores.defaultedList Quantile.restores _ quantilesFound
      rintro document rfl
      exact writable_of_record? writable read (by simp)
    constructor
    · simpa [fields] using stored.writable
    · simp [ofJson?, fields, record?, onlyField?, stored.decoded]
  · contradiction

/-- A transform that a writable document holds under a name is written to one that holds it under
the name of the transform. -/
theorem Transform.restores {name : String} {body : Json} {transform : Transform}
    (writable : body.Writable) (decoded : Transform.ofJson? name body = some transform) :
    Stored (Transform.ofJson? transform.name)
      (.object (("name", .string transform.name) :: transform.fields)) transform := by
  unfold ofJson? at decoded
  split at decoded <;>
    first
    | contradiction
    | obtain ⟨definition, found, rfl⟩ := Option.map_eq_some_iff.1 decoded
  · exact (Rename.stored _ definition).map rename
  · exact (Delete.stored _ definition).map delete
  · exact (Select.stored _ definition).map select
  · exact (Duplicate.stored _ definition).map duplicate
  · exact (Convert.stored _ definition).map convert
  · exact (Concatenate.stored _ definition).map concatenate
  · exact (FillNull.restores _ writable found).map fillNull
  · exact (Filter.restores _ writable found).map filter
  · exact (Derive.stored _ definition).map derive
  · exact (ConstantText.stored _ definition).map constantText
  · exact (ChangeCase.stored _ definition).map (changeCase .lower)
  · exact (ChangeCase.stored _ definition).map (changeCase .upper)
  · exact (Replace.restores _ writable found).map replace
  · exact (Aggregate.stored _ definition).map aggregate
  · exact (Rank.stored _ definition).map rank
  · exact (Duration.stored _ definition).map duration
  · exact (IfThenElse.restores _ writable found).map ifThenElse
  · exact (Extreme.stored _ definition).map (extreme .greatest)
  · exact (Extreme.stored _ definition).map (extreme .least)
  · exact (RunningSum.stored _ definition).map runningSum
  · exact (Share.stored _ definition).map share
  · exact (FormatDate.stored _ definition).map formatDate
  · exact (ExtractDate.stored _ definition).map extractDate
  · exact (Evolution.stored _ definition).map evolution
  · exact (Pivot.stored _ definition).map pivot
  · exact (Rollup.stored _ definition).map rollup
  · exact (Statistics.restores _ writable found).map statistics

end TableFlow
