import TableFlow.Table.Basic
import TableFlow.Transform.Aggregate

/-!
# Rollups

A rollup aggregates at every level of a hierarchy and stacks the results, the coarsest level first.
Each row tells its own label, its level and the label of its parent; the columns of finer levels are
empty.
-/

namespace TableFlow

open TableFlow.Json

/-- Aggregate at every level of a hierarchy, from the coarsest column to the finest. -/
structure Rollup where
  hierarchy : List String
  aggregations : List Aggregation
  keys : List String
  labelColumn : String
  levelColumn : String
  parentColumn : String
  deriving BEq

namespace Rollup

def validate (rollup : Rollup) : Except StepError Unit :=
  checkThen (requireNames "hierarchy" rollup.hierarchy) fun () =>
    checkThen (requireEach "groupby" rollup.keys) fun () =>
      checkThen (requireName "labelCol" rollup.labelColumn) fun () =>
        checkThen (requireName "levelCol" rollup.levelColumn) fun () =>
          checkThen (requireName "parentLabelCol" rollup.parentColumn) fun () =>
            if rollup.aggregations.isEmpty then .error (.invalid (.noAggregation "rollup"))
            else checkAll Aggregation.validate rollup.aggregations

/-- Add the label, the level and the label of the parent to the aggregates of a level. -/
def annotate (rollup : Rollup) (level : Table) (own : String) (parent : Option String) :
    Except StepError Table :=
  match level.column own with
  | .error error => .error error
  | .ok label =>
      let parentColumn : Except StepError Column :=
        match parent with
        | none => .ok (Column.broadcast rollup.parentColumn .null level.rowCount)
        | some parent =>
            match level.column parent with
            | .error error => .error error
            | .ok column => .ok (column.renamed rollup.parentColumn)
      match parentColumn with
      | .error error => .error error
      | .ok parentColumn =>
          level.withColumns
            [ label.renamed rollup.labelColumn,
              .broadcast rollup.levelColumn (.text own) level.rowCount, parentColumn ]

/-- The tables of the levels. `passed` holds the coarser columns, and `parent` the last of
them. -/
def levels (rollup : Rollup) (table : Table) (passed : List String) (parent : Option String) :
    List String → Except StepError (List Table)
  | [] => .ok []
  | own :: finer =>
      let aggregate : Aggregate :=
        { keys := rollup.keys ++ passed ++ [own], aggregations := rollup.aggregations
          keepRows := false }
      match aggregate.apply table with
      | .error error => .error error
      | .ok level =>
          match rollup.annotate level own parent with
          | .error error => .error error
          | .ok annotated =>
              match rollup.levels table (passed ++ [own]) (some own) finer with
              | .error error => .error error
              | .ok rest => .ok (annotated :: rest)

/-- The names of the columns of the result. -/
def outputNames (rollup : Rollup) : List String :=
  rollup.keys ++ rollup.hierarchy ++ rollup.aggregations.flatMap Aggregation.newColumns ++
    [rollup.labelColumn, rollup.levelColumn, rollup.parentColumn]

/-- The aggregates of all levels, the coarsest first. -/
def apply (rollup : Rollup) (table : Table) : Except StepError Table :=
  match rollup.levels table [] none rollup.hierarchy with
  | .error error => .error error
  | .ok levels =>
      Table.ofColumns (rollup.outputNames.map fun name => { name, cells := stackCells levels name })

def ofJson? (body : Json) : Option Rollup :=
  match body.record?
      ["hierarchy", "aggregations", "groupby", "labelCol", "levelCol", "parentLabelCol"] with
  | some [hierarchy, aggregations, keys, labelColumn, levelColumn, parentColumn] => do
      return { hierarchy := ← required texts? hierarchy
               aggregations := ← required (list? Aggregation.ofJson?) aggregations
               keys := ← defaulted [] texts? keys
               labelColumn := ← defaulted "label" text? labelColumn
               levelColumn := ← defaulted "level" text? levelColumn
               parentColumn := ← defaulted "parent" text? parentColumn }
  | _ => none

def fields (rollup : Rollup) : List (String × Json) :=
  [ ("hierarchy", ofTexts rollup.hierarchy),
    ("aggregations", .array (rollup.aggregations.map Aggregation.toJson)),
    ("groupby", ofTexts rollup.keys), ("labelCol", .string rollup.labelColumn),
    ("levelCol", .string rollup.levelColumn), ("parentLabelCol", .string rollup.parentColumn) ]

end Rollup

end TableFlow
