import TableFlow.Transform.Cells
import TableFlow.Transform.Columns
import TableFlow.Transform.Dates
import TableFlow.Transform.Derive
import TableFlow.Transform.Duration
import TableFlow.Transform.Evolution
import TableFlow.Transform.Extreme
import TableFlow.Transform.Pivot
import TableFlow.Transform.Rank
import TableFlow.Transform.Rollup
import TableFlow.Transform.RunningSum
import TableFlow.Transform.Share
import TableFlow.Transform.Statistics

/-!
# Transforms

A transform turns a table into a table and needs nothing else. Each has a name, under which it is
stored, demands on its definition, and an effect.
-/

namespace TableFlow

/-- A transform of a table. -/
inductive Transform where
  | rename (definition : Rename)
  | delete (definition : Delete)
  | select (definition : Select)
  | duplicate (definition : Duplicate)
  | convert (definition : Convert)
  | concatenate (definition : Concatenate)
  | fillNull (definition : FillNull)
  | filter (definition : Filter)
  | derive (definition : Derive)
  | constantText (definition : ConstantText)
  | changeCase (letterCase : LetterCase) (definition : ChangeCase)
  | replace (definition : Replace)
  | aggregate (definition : Aggregate)
  | rank (definition : Rank)
  | duration (definition : Duration)
  | ifThenElse (definition : IfThenElse)
  | extreme (side : Side) (definition : Extreme)
  | runningSum (definition : RunningSum)
  | share (definition : Share)
  | formatDate (definition : FormatDate)
  | extractDate (definition : ExtractDate)
  | evolution (definition : Evolution)
  | pivot (definition : Pivot)
  | rollup (definition : Rollup)
  | statistics (definition : Statistics)
  deriving BEq

namespace Transform

def name : Transform → String
  | .rename _ => "rename"
  | .delete _ => "delete"
  | .select _ => "select"
  | .duplicate _ => "duplicate"
  | .convert _ => "convert"
  | .concatenate _ => "concatenate"
  | .fillNull _ => "fillna"
  | .filter _ => "filter"
  | .derive _ => "formula"
  | .constantText _ => "text"
  | .changeCase .lower _ => "lowercase"
  | .changeCase .upper _ => "uppercase"
  | .replace _ => "replace"
  | .aggregate _ => "aggregate"
  | .rank _ => "rank"
  | .duration _ => "duration"
  | .ifThenElse _ => "ifthenelse"
  | .extreme .greatest _ => "argmax"
  | .extreme .least _ => "argmin"
  | .runningSum _ => "cumsum"
  | .share _ => "percentage"
  | .formatDate _ => "fromdate"
  | .extractDate _ => "dateextract"
  | .evolution _ => "evolution"
  | .pivot _ => "pivot"
  | .rollup _ => "rollup"
  | .statistics _ => "statistics"

/-- The demands on a definition that need no table. -/
def validate : Transform → Except StepError Unit
  | .rename definition => definition.validate
  | .delete definition => definition.validate
  | .select definition => definition.validate
  | .duplicate definition => definition.validate
  | .convert definition => definition.validate
  | .concatenate definition => definition.validate
  | .fillNull definition => definition.validate
  | .filter definition => definition.validate
  | .derive definition => definition.validate
  | .constantText definition => definition.validate
  | .changeCase _ definition => definition.validate
  | .replace definition => definition.validate
  | .aggregate definition => definition.validate
  | .rank definition => definition.validate
  | .duration definition => definition.validate
  | .ifThenElse definition => definition.validate
  | .extreme _ definition => definition.validate
  | .runningSum definition => definition.validate
  | .share definition => definition.validate
  | .formatDate definition => definition.validate
  | .extractDate definition => definition.validate
  | .evolution definition => definition.validate
  | .pivot definition => definition.validate
  | .rollup definition => definition.validate
  | .statistics definition => definition.validate

/-- The effect of a transform. -/
def apply : Transform → Table → Except StepError Table
  | .rename definition, table => definition.apply table
  | .delete definition, table => definition.apply table
  | .select definition, table => definition.apply table
  | .duplicate definition, table => definition.apply table
  | .convert definition, table => definition.apply table
  | .concatenate definition, table => definition.apply table
  | .fillNull definition, table => definition.apply table
  | .filter definition, table => definition.apply table
  | .derive definition, table => definition.apply table
  | .constantText definition, table => definition.apply table
  | .changeCase letterCase definition, table => definition.apply letterCase table
  | .replace definition, table => definition.apply table
  | .aggregate definition, table => definition.apply table
  | .rank definition, table => definition.apply table
  | .duration definition, table => definition.apply table
  | .ifThenElse definition, table => definition.apply table
  | .extreme side definition, table => definition.apply side table
  | .runningSum definition, table => definition.apply table
  | .share definition, table => definition.apply table
  | .formatDate definition, table => definition.apply table
  | .extractDate definition, table => definition.apply table
  | .evolution definition, table => definition.apply table
  | .pivot definition, table => definition.apply table
  | .rollup definition, table => definition.apply table
  | .statistics definition, table => definition.apply table

/-- The transform of a name with the stored form of its definition. -/
def ofJson? (name : String) (body : Json) : Option Transform :=
  match name with
  | "rename" => (Rename.ofJson? body).map .rename
  | "delete" => (Delete.ofJson? body).map .delete
  | "select" => (Select.ofJson? body).map .select
  | "duplicate" => (Duplicate.ofJson? body).map .duplicate
  | "convert" => (Convert.ofJson? body).map .convert
  | "concatenate" => (Concatenate.ofJson? body).map .concatenate
  | "fillna" => (FillNull.ofJson? body).map .fillNull
  | "filter" => (Filter.ofJson? body).map .filter
  | "formula" => (Derive.ofJson? body).map .derive
  | "text" => (ConstantText.ofJson? body).map .constantText
  | "lowercase" => (ChangeCase.ofJson? body).map (.changeCase .lower)
  | "uppercase" => (ChangeCase.ofJson? body).map (.changeCase .upper)
  | "replace" => (Replace.ofJson? body).map .replace
  | "aggregate" => (Aggregate.ofJson? body).map .aggregate
  | "rank" => (Rank.ofJson? body).map .rank
  | "duration" => (Duration.ofJson? body).map .duration
  | "ifthenelse" => (IfThenElse.ofJson? body).map .ifThenElse
  | "argmax" => (Extreme.ofJson? body).map (.extreme .greatest)
  | "argmin" => (Extreme.ofJson? body).map (.extreme .least)
  | "cumsum" => (RunningSum.ofJson? body).map .runningSum
  | "percentage" => (Share.ofJson? body).map .share
  | "fromdate" => (FormatDate.ofJson? body).map .formatDate
  | "dateextract" => (ExtractDate.ofJson? body).map .extractDate
  | "evolution" => (Evolution.ofJson? body).map .evolution
  | "pivot" => (Pivot.ofJson? body).map .pivot
  | "rollup" => (Rollup.ofJson? body).map .rollup
  | "statistics" => (Statistics.ofJson? body).map .statistics
  | _ => none

/-- The fields of the stored form of a definition. -/
def fields : Transform → List (String × Json)
  | .rename definition => definition.fields
  | .delete definition => definition.fields
  | .select definition => definition.fields
  | .duplicate definition => definition.fields
  | .convert definition => definition.fields
  | .concatenate definition => definition.fields
  | .fillNull definition => definition.fields
  | .filter definition => definition.fields
  | .derive definition => definition.fields
  | .constantText definition => definition.fields
  | .changeCase _ definition => definition.fields
  | .replace definition => definition.fields
  | .aggregate definition => definition.fields
  | .rank definition => definition.fields
  | .duration definition => definition.fields
  | .ifThenElse definition => definition.fields
  | .extreme _ definition => definition.fields
  | .runningSum definition => definition.fields
  | .share definition => definition.fields
  | .formatDate definition => definition.fields
  | .extractDate definition => definition.fields
  | .evolution definition => definition.fields
  | .pivot definition => definition.fields
  | .rollup definition => definition.fields
  | .statistics definition => definition.fields

end Transform

end TableFlow
