import TableFlow.Proofs.Transform.Placement
import TableFlow.Proofs.Transform.Reduction
import TableFlow.Proofs.Transform.RowWise

/-!
# What transforms that write columns leave alone

A transform that writes columns has its say under their names and nowhere else.  The rows stay as
they are, in a table without columns too, and so do the columns under other names and the order of
all columns.  It makes no difference where the new cells come from: a row, a group of rows, or
another row at an earlier date.  All that has to be known of them is that there is one for each row.

Main statement: `Transform.apply_frames`.
-/

namespace TableFlow

open TableFlow.Table

variable {table output : Table}

theorem Table.WellFormed.frames_withComputed (wellFormed : table.WellFormed)
    {compute : Table → Except StepError (List Cell)} (byRows : table.GoesByRows compute)
    {name : String} (applied : table.withComputed name (compute table) = .ok output) :
    table.Frames output [name] := by
  obtain ⟨cells, computed, added⟩ := bind_eq_ok_iff.1 applied
  exact wellFormed.frames_withColumn (byRows.length_eq computed) added

/-- Cells placed group by group: a row that no group has gets an empty cell. -/
theorem Table.WellFormed.frames_placeGroups (wellFormed : table.WellFormed) {keys : List String}
    {name : String} {place : List Nat → Except StepError (List (Nat × Cell))}
    (placed : table.placeGroups keys name place = .ok output) : table.Frames output [name] := by
  rw [placeGroups] at placed
  split at placed
  · cases placed
  · split at placed
    · cases placed
    · exact wellFormed.frames_withColumn (length_scatter ..) placed

theorem Rank.frames_apply {rank : Rank} (wellFormed : table.WellFormed)
    (applied : rank.apply table = .ok output) : table.Frames output [rank.outputColumn] := by
  cases found : table.column rank.column with
  | error error =>
      rw [apply, found] at applied
      cases applied
  | ok column =>
      rw [apply_eq rank found] at applied
      exact wellFormed.frames_placeGroups applied

theorem Share.frames_apply {share : Share} (wellFormed : table.WellFormed)
    (applied : share.apply table = .ok output) : table.Frames output [share.outputColumn] := by
  cases found : table.column share.column with
  | error error =>
      rw [apply, found] at applied
      cases applied
  | ok column =>
      cases numeric : requireNumeric column .number with
      | error error =>
          simp only [apply, found, numeric] at applied
          cases applied
      | ok kinds =>
          rw [apply_eq share found numeric] at applied
          exact wellFormed.frames_placeGroups applied

theorem RunningSum.frames_apply {running : RunningSum} (wellFormed : table.WellFormed)
    (applied : running.apply table = .ok output) : table.Frames output [running.outputColumn] := by
  cases found : table.column running.column with
  | error error =>
      rw [apply, found] at applied
      cases applied
  | ok column =>
      cases numeric : requireNumeric column .number with
      | error error =>
          simp only [apply, found, numeric] at applied
          cases applied
      | ok kinds =>
          rw [apply_eq running found numeric] at applied
          exact wellFormed.frames_placeGroups applied

/-- A comparison for every date, and a date or none for every row. -/
theorem Evolution.exists_of_apply {evolution : Evolution} (wellFormed : table.WellFormed)
    (applied : evolution.apply table = .ok output) :
    ∃ cells : List Cell, cells.length = table.rowCount ∧
      table.withColumn ⟨evolution.outputColumn, cells⟩ = .ok output := by
  rw [apply] at applied
  split at applied
  · cases applied
  · rename_i dateColumn found
    split at applied
    · cases applied
    · rename_i dates read
      split at applied
      · cases applied
      · split at applied
        · cases applied
        · split at applied
          · cases applied
          · split at applied
            · cases applied
            · split at applied
              · cases applied
              · rename_i cells compared
                refine ⟨cells, ?_, applied⟩
                obtain ⟨_, _, rfl⟩ := exists_of_mapM_eq_ok .null compared
                obtain ⟨_, _, rfl⟩ := exists_of_mapM_eq_ok none read
                rw [List.length_map, List.length_zipIdx, List.length_map,
                  wellFormed.length_column found]

theorem ExtractDate.frames_apply {extract : ExtractDate} (wellFormed : table.WellFormed)
    (applied : extract.apply table = .ok output) :
    table.Frames output ((extract.parts.zip extract.newColumns).map Prod.snd) := by
  rw [apply_eq_bind] at applied
  obtain ⟨moments, computed, added⟩ := bind_eq_ok_iff.1 applied
  have fit : ∀ column ∈ extract.written moments, column.cells.length = table.rowCount := by
    rw [written, List.forall_mem_map]
    intro pair member
    rw [partColumn, List.length_map]
    exact (extract.goesByRows_moments wellFormed).length_eq computed
  have names : (extract.written moments).map Column.name =
      (extract.parts.zip extract.newColumns).map Prod.snd := List.map_map
  rw [← names]
  exact wellFormed.frames_withColumns fit added

theorem Table.WellFormed.frames_withChanged (wellFormed : table.WellFormed) {names : List String}
    {change : Cell → Cell} (applied : table.withChanged names change = .ok output) :
    table.Frames output names := by
  obtain ⟨columns, found, added⟩ := bind_eq_ok_iff.1 applied
  have fit : ∀ column ∈ columns.map (Column.mapCells change),
      column.cells.length = table.rowCount := by
    rw [List.forall_mem_map]
    intro column member
    rw [Column.mapCells, List.length_map]
    exact wellFormed.length_of_mem_columnsOf found column member
  have changedNames : (columns.map (Column.mapCells change)).map Column.name = names :=
    List.map_map.trans (map_name_of_columnsOf found)
  rw [← changedNames]
  exact wellFormed.frames_withColumns fit added

/-- The results of the groups, repeated in their rows. -/
theorem Aggregate.frames_apply {aggregate : Aggregate} (keeps : aggregate.keepRows = true)
    (wellFormed : table.WellFormed) (applied : aggregate.apply table = .ok output) :
    table.Frames output aggregate.targets := by
  rw [apply] at applied
  split at applied
  · cases applied
  · split at applied
    · cases applied
    · rename_i groups _ _ results traversed
      rw [if_pos keeps] at applied
      have fit : ∀ column ∈ results.flatten.map fun column =>
          { column with cells := spread table.rowCount groups column.cells },
          column.cells.length = table.rowCount := by
        rw [List.forall_mem_map]
        intro column member
        exact length_scatter ..
      have written := wellFormed.frames_withColumns fit applied
      rw [List.map_map] at written
      rw [← (results_takeRows traversed).1]
      exact written

namespace Transform

/-- The names of the columns that a transform writes into the table, for the transforms that do
nothing else to it.  A part of a date without a name for it writes none. -/
def outputs? : Transform → Option (List String)
  | .duplicate definition => some [definition.newColumn]
  | .convert definition => some definition.columns
  | .concatenate definition => some [definition.newColumn]
  | .fillNull definition => some definition.columns
  | .derive definition => some [definition.newColumn]
  | .constantText definition => some [definition.newColumn]
  | .changeCase _ definition => some [definition.column]
  | .replace definition => some [definition.column]
  | .aggregate definition => if definition.keepRows then some definition.targets else none
  | .rank definition => some [definition.outputColumn]
  | .duration definition => some [definition.newColumn]
  | .ifThenElse definition => some [definition.newColumn]
  | .runningSum definition => some [definition.outputColumn]
  | .share definition => some [definition.outputColumn]
  | .formatDate definition => some [definition.column]
  | .extractDate definition => some ((definition.parts.zip definition.newColumns).map Prod.snd)
  | .evolution definition => some [definition.outputColumn]
  | _ => none

theorem outputs?_of_computed? {transform : Transform} {name : String}
    {compute : Table → Except StepError (List Cell)}
    (computes : transform.computed? = some (name, compute)) : transform.outputs? = some [name] := by
  cases transform <;> cases computes <;> rfl

/-- A transform that writes columns changes nothing but the columns of these names, and adds the
names that were not there behind the others. -/
theorem apply_frames (transform : Transform) (written : List String)
    (writes : transform.outputs? = some written) (table output : Table)
    (wellFormed : table.WellFormed)
    (applied : transform.apply table = .ok output) : table.Frames output written := by
  -- One column computed row by row is written as it is; the others differ in where their cells come
  -- from.
  cases computes : transform.computed? with
  | some column =>
      rw [outputs?_of_computed? computes, Option.some.injEq] at writes
      rw [apply_eq_withComputed computes] at applied
      rw [← writes]
      exact wellFormed.frames_withComputed (goesByRows_of_computed? wellFormed computes) applied
  | none =>
      cases transform with
      | convert definition =>
          cases writes
          rw [apply, definition.apply_eq_withChanged wellFormed] at applied
          exact wellFormed.frames_withChanged applied
      | fillNull definition =>
          cases writes
          rw [apply, definition.apply_eq_withChanged wellFormed] at applied
          exact wellFormed.frames_withChanged applied
      | aggregate definition =>
          obtain ⟨keeps, written⟩ := Option.ite_none_right_eq_some.1 writes
          cases written
          exact Aggregate.frames_apply keeps wellFormed applied
      | rank definition =>
          cases writes
          exact Rank.frames_apply wellFormed applied
      | runningSum definition =>
          cases writes
          exact RunningSum.frames_apply wellFormed applied
      | share definition =>
          cases writes
          exact Share.frames_apply wellFormed applied
      | extractDate definition =>
          cases writes
          exact ExtractDate.frames_apply wellFormed applied
      | evolution definition =>
          cases writes
          obtain ⟨cells, fits, added⟩ := Evolution.exists_of_apply wellFormed applied
          exact wellFormed.frames_withColumn fits added
      | duplicate _ | concatenate _ | derive _ | constantText _ | changeCase _ _ | replace _
      | duration _ | ifThenElse _ | formatDate _ => cases computes
      | rename _ | delete _ | select _ | filter _ | extreme _ _ | pivot _ | rollup _
      | statistics _ => cases writes

/-- Three sales in two shops. -/
def sales : Table :=
  { columns :=
      [⟨"shop", [.text "a", .text "b", .text "a"]⟩,
       ⟨"sale", [.integer 3, .integer 5, .integer 4]⟩]
    rowCount := 3 }

/-- Results by shop beside the sales.  One is written over the shops, and one over an earlier
result. -/
def shopResults : Transform :=
  .aggregate
    { keys := ["shop"]
      aggregations :=
        [⟨["sale"], .last, ["result"]⟩, ⟨["sale", "shop"], .count, ["shop", "result"]⟩]
      keepRows := true }

def salesWithResults : Table :=
  { columns :=
      [⟨"shop", [.integer 2, .integer 1, .integer 2]⟩,
       ⟨"sale", [.integer 3, .integer 5, .integer 4]⟩,
       ⟨"result", [.integer 2, .integer 1, .integer 2]⟩]
    rowCount := 3 }

/-- Two of the results share a name, and another one has the name of the key. -/
theorem apply_frames_shopResults :
    shopResults.outputs? = some ["result", "shop", "result"] ∧ sales.WellFormed ∧
      shopResults.apply sales = .ok salesWithResults ∧
      sales.Frames salesWithResults ["result", "shop", "result"] := by
  have wellFormed : sales.WellFormed := ⟨by decide, by decide⟩
  have applied : shopResults.apply sales = .ok salesWithResults := rfl
  exact ⟨rfl, wellFormed, applied, apply_frames shopResults _ rfl sales _ wellFormed applied⟩

end Transform

end TableFlow
