import TableFlow.Number.Basic
import TableFlow.Sorting
import TableFlow.Transform.Aggregate

/-!
# Statistics

Descriptive statistics of a column of numbers, one row for each group. Quantiles lie between the
two nearest values of the sorted column, in proportion.
-/

namespace TableFlow

open TableFlow.Json
open TableFlow.Number

inductive Statistic where
  | count
  | max
  | min
  | average
  | variance
  | standardDeviation
  deriving DecidableEq

namespace Statistic

/-- The name of a statistic, which is also the name of its column. -/
def name : Statistic → String
  | .count => "count"
  | .max => "max"
  | .min => "min"
  | .average => "average"
  | .variance => "variance"
  | .standardDeviation => "standard deviation"

instance : Labelled Statistic where
  label := name
  all := [.count, .max, .min, .average, .variance, .standardDeviation]

def mean (values : List Float) : Float :=
  sumFloats values / Float.ofNat values.length

/-- The mean of the squared distances from the mean. -/
def varianceOf (values : List Float) : Float :=
  let center := mean values
  sumFloats (values.map fun value => (value - center) * (value - center)) /
    Float.ofNat values.length

/-- The first cell that no later one beats on the way. -/
def extreme (wanted : Ordering) : List Cell → Cell
  | [] => .null
  | first :: rest => rest.foldl (Cell.better wanted) first

/-- A statistic of cells that are numbers. -/
def compute (statistic : Statistic) (cells : List Cell) : Cell :=
  let values := cells.filterMap Cell.number?
  match statistic with
  | .count => .integer (Int64.ofNat cells.length)
  | .max => extreme .gt cells
  | .min => extreme .lt cells
  | .average => if cells.isEmpty then .null else .float (mean values)
  | .variance => if cells.isEmpty then .null else .float (varianceOf values)
  | .standardDeviation => if cells.isEmpty then .null else .float (varianceOf values).sqrt

end Statistic

/-- The `nth` of `order` quantiles: 1 of 2 is the median, 3 of 4 the third quartile. -/
structure Quantile where
  label : Option String
  nth : Nat
  order : Nat
  deriving BEq

namespace Quantile

def columnName (quantile : Quantile) : String :=
  quantile.label.getD
    (natText quantile.nth ++ "-th " ++ natText quantile.order ++ "-quantile")

/-- Demand a quantile that exists. -/
def validate (quantile : Quantile) : Except StepError Unit :=
  if quantile.order = 0 ∨ quantile.order < quantile.nth then
    .error (.invalid (.badQuantile quantile.nth quantile.order))
  else .ok ()

/-- The index that a rounded position stands for.  No number stands for the first index, and
infinity for the last one that there can be. -/
def index (position : Float) (whole : Option Int) : Nat :=
  match whole with
  | some whole => whole.toNat
  | none => if position.isNaN then 0 else 18446744073709551615

def valueAt (values : List Float) (index : Nat) : Except StepError Float :=
  match values[index]? with
  | some value => .ok value
  | none => .error (.crashed (.indexOutOfRange values.length index))

/-- The value at a position between the items of a sorted list. -/
def interpolate (values : List Float) (position : Float) : Except StepError Float := do
  let lower := index position (floor? position)
  let upper := index position ((floor? (-position)).map fun whole => -whole)
  let low ← valueAt values lower
  let high ← valueAt values upper
  return low + (high - low) * (position - Float.ofNat lower)

/-- A quantile of cells that are numbers.  Floats that do not compare count as equal. -/
def compute (quantile : Quantile) (cells : List Cell) : Except StepError Cell :=
  let values := cells.filterMap Cell.number?
  if values.isEmpty then .ok .null
  else
    match (sortBy (noting Cell.compareFloats?) values none).1 with
    | none => .error (.crashed .contradictoryOrder)
    | some sorted =>
        (interpolate sorted (Float.ofNat (values.length - 1) * Float.ofNat quantile.nth /
          Float.ofNat quantile.order)).map Cell.float

def column (samples : List (List Cell)) (quantile : Quantile) : Except StepError Column :=
  (samples.mapM quantile.compute).map fun cells => { name := quantile.columnName, cells }

def ofJson? (document : Json) : Option Quantile :=
  match document.record? ["label", "nth", "order"] with
  | some [label, nth, order] => do
      return { label := ← defaulted none textOrNull? label
               nth := ← required (natBelow? 4294967296) nth
               order := ← required (natBelow? 4294967296) order }
  | _ => none

/-- A quantile as a document. -/
def toJson (quantile : Quantile) : Json :=
  .object
    (optionalField "label" quantile.label ++
      [("nth", .integer quantile.nth), ("order", .integer quantile.order)])

end Quantile

/-- Statistics and quantiles of a column within groups. -/
structure Statistics where
  column : String
  keys : List String
  statistics : List Statistic
  quantiles : List Quantile
  deriving BEq

namespace Statistics

/-- Demand names, something to compute, and quantiles that exist. -/
def validate (statistics : Statistics) : Except StepError Unit :=
  checkThen (requireName "column" statistics.column) fun () =>
    checkThen (requireEach "groupbyColumns" statistics.keys) fun () =>
      if statistics.statistics.isEmpty && statistics.quantiles.isEmpty then
        .error (.invalid .noStatistic)
      else checkAll Quantile.validate statistics.quantiles

/-- The groups to look at; without keys even a table without rows has one. -/
def groups (statistics : Statistics) (table : Table) : Except StepError (List (List Nat)) :=
  match table.groupRows statistics.keys with
  | .error error => .error error
  | .ok groups =>
      if groups.isEmpty && statistics.keys.isEmpty then .ok [[]] else .ok groups

/-- The columns of statistics and quantiles of some samples. -/
def resultColumns (statistics : Statistics) (samples : List (List Cell)) :
    Except StepError (List Column) :=
  (statistics.quantiles.mapM (Quantile.column samples)).map
    ((statistics.statistics.map fun statistic =>
      { name := statistic.name, cells := samples.map statistic.compute }) ++ ·)

def apply (statistics : Statistics) (table : Table) : Except StepError Table :=
  match table.column statistics.column with
  | .error error => .error error
  | .ok column =>
      match requireNumeric column .number with
      | .error error => .error error
      | .ok _ =>
          match statistics.groups table with
          | .error error => .error error
          | .ok groups =>
              match table.columnsOf statistics.keys with
              | .error error => .error error
              | .ok keys =>
                  match statistics.resultColumns
                      (groups.map fun rows => Cell.filled (rows.map column.cellAt)) with
                  | .error error => .error error
                  | .ok results =>
                      Table.ofColumns
                        ((keys.map fun key => key.takeRows (firstRows groups)) ++ results)

def ofJson? (body : Json) : Option Statistics :=
  match body.record? ["column", "groupbyColumns", "statistics", "quantiles"] with
  | some [column, keys, statistics, quantiles] => do
      return { column := ← required text? column
               keys := ← defaulted [] texts? keys
               statistics := ← defaulted [] (list? choice?) statistics
               quantiles := ← defaulted [] (list? Quantile.ofJson?) quantiles }
  | _ => none

def fields (statistics : Statistics) : List (String × Json) :=
  [ ("column", .string statistics.column), ("groupbyColumns", ofTexts statistics.keys),
    ("statistics", .array (statistics.statistics.map ofChoice)),
    ("quantiles", .array (statistics.quantiles.map Quantile.toJson)) ]

end Statistics

end TableFlow
