import TableFlow.Proofs.Table.WellFormed
import TableFlow.Transform.Basic

/-!
# Transforms keep tables well formed

A transform ends in one of three ways.  It hands columns to the check of `Table.ofColumns`, alone or
through `Table.withColumn`; it takes rows of the table; or it repeats an operation on the table it
started from, possibly not even once.  Only the last two use that the table was well formed before.
-/

namespace TableFlow

variable {table : Table}

theorem Rename.givesWellFormed_applyPair (wellFormed : table.WellFormed) (old new : String) :
    GivesWellFormed (applyPair table old new) := by
  rw [applyPair]
  split
  · simpa using wellFormed
  · simp

theorem Rename.givesWellFormed_applyPairs (wellFormed : table.WellFormed)
    (pairs : List (String × String)) : GivesWellFormed (applyPairs table pairs) := by
  induction pairs generalizing table with
  | nil => simpa [applyPairs] using wellFormed
  | cons pair rest ih =>
      obtain ⟨old, new⟩ := pair
      rw [applyPairs]
      split
      · simp
      · rename_i next renamed
        exact ih (givesWellFormed_applyPair wellFormed old new next renamed)

theorem Delete.givesWellFormed_dropAll (wellFormed : table.WellFormed) (names : List String) :
    GivesWellFormed (dropAll table names) := by
  induction names generalizing table with
  | nil => simpa [dropAll] using wellFormed
  | cons name rest ih =>
      rw [dropAll]
      split
      · simp
      · rename_i next dropped
        exact ih (Table.givesWellFormed_withoutColumn wellFormed name next dropped)

/-- The table that the columns are read from need not be the one that they are written to, and
nothing is asked of it. -/
theorem givesWellFormed_updateColumns (source : Table) (update : Column → Option Column)
    (wellFormed : table.WellFormed) (names : List String) :
    GivesWellFormed (updateColumns source update table names) := by
  induction names generalizing table with
  | nil => simpa [updateColumns] using wellFormed
  | cons name rest ih =>
      rw [updateColumns]
      split
      · simp
      · split
        · exact ih wellFormed
        · split
          · simp
          · rename_i next updated
            exact ih (Table.givesWellFormed_withColumn table _ next updated)

theorem Filter.givesWellFormed_apply (wellFormed : table.WellFormed) (filter : Filter) :
    GivesWellFormed (filter.apply table) := by
  rw [apply]
  split
  · simp
  · rw [givesWellFormed_ok]
    exact wellFormed.takeRows _

theorem Extreme.givesWellFormed_apply (wellFormed : table.WellFormed) (side : Side)
    (extreme : Extreme) : GivesWellFormed (extreme.apply side table) := by
  rw [apply]
  split
  · simp
  · split
    · simp
    · split
      · simp
      · rw [givesWellFormed_ok]
        exact wellFormed.takeRows _

/-- Aggregation either adds columns to the table or builds a table of its own. -/
theorem Aggregate.givesWellFormed_apply (wellFormed : table.WellFormed) (aggregate : Aggregate) :
    GivesWellFormed (aggregate.apply table) := by
  rw [apply]
  split
  · simp
  · split
    · simp
    · split
      · exact Table.givesWellFormed_withColumns wellFormed _
      · split <;> simp

theorem ExtractDate.givesWellFormed_apply (wellFormed : table.WellFormed)
    (extract : ExtractDate) : GivesWellFormed (extract.apply table) := by
  rw [apply]
  split
  · simp
  · split
    · simp
    · split
      · simp
      · exact Table.givesWellFormed_withColumns wellFormed _

/-- Every transform of a well-formed table gives a well-formed table or fails. -/
theorem Transform.givesWellFormed_apply (wellFormed : table.WellFormed) (transform : Transform) :
    GivesWellFormed (transform.apply table) := by
  cases transform with
  | rename definition => exact Rename.givesWellFormed_applyPairs wellFormed _
  | delete definition => exact Delete.givesWellFormed_dropAll wellFormed _
  | select definition => exact Table.givesWellFormed_select table _
  | convert definition => exact givesWellFormed_updateColumns table _ wellFormed _
  | fillNull definition => exact givesWellFormed_updateColumns table _ wellFormed _
  | filter definition => exact Filter.givesWellFormed_apply wellFormed definition
  | extreme side definition => exact Extreme.givesWellFormed_apply wellFormed side definition
  | aggregate definition => exact Aggregate.givesWellFormed_apply wellFormed definition
  | extractDate definition => exact ExtractDate.givesWellFormed_apply wellFormed definition
  | constantText definition => exact Table.givesWellFormed_withColumn table _
  -- What is left fails, or ends in `Table.withColumn` or `Table.ofColumns`.
  | duplicate definition =>
      rw [apply, Duplicate.apply]
      split <;> simp
  | concatenate definition =>
      rw [apply, Concatenate.apply]
      split <;> simp
  | derive definition =>
      rw [apply, Derive.apply]
      split <;> simp
  | replace definition =>
      rw [apply, Replace.apply]
      split <;> simp
  | ifThenElse definition =>
      rw [apply, IfThenElse.apply]
      split <;> simp
  | rollup definition =>
      rw [apply, Rollup.apply]
      split <;> simp
  | changeCase letterCase definition =>
      rw [apply, ChangeCase.apply]
      repeat' split
      all_goals simp
  | rank definition =>
      rw [apply, Rank.apply]
      repeat' split
      all_goals simp
  | duration definition =>
      rw [apply, Duration.apply]
      repeat' split
      all_goals simp
  | runningSum definition =>
      rw [apply, RunningSum.apply]
      repeat' split
      all_goals simp
  | share definition =>
      rw [apply, Share.apply]
      repeat' split
      all_goals simp
  | formatDate definition =>
      rw [apply, FormatDate.apply]
      repeat' split
      all_goals simp
  | evolution definition =>
      rw [apply, Evolution.apply]
      repeat' split
      all_goals simp
  | pivot definition =>
      simp only [apply, Pivot.apply]
      repeat' split
      all_goals simp
  | statistics definition =>
      rw [apply, Statistics.apply]
      repeat' split
      all_goals simp

end TableFlow
