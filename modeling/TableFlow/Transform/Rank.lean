import TableFlow.Json.Record
import TableFlow.Sorting
import TableFlow.Table.Basic
import TableFlow.Transform.Check

/-!
# Ranks

The position of each value in the order of its group, counted from one. Equal values share a rank,
and empty cells have none.
-/

namespace TableFlow

open TableFlow.Json

/-- The direction of a ranking. -/
inductive RankOrder where
  | ascending
  | descending
  deriving DecidableEq

instance : Labelled RankOrder where
  label
    | .ascending => "asc"
    | .descending => "desc"
  all := [.ascending, .descending]

def RankOrder.direct (order : RankOrder) (ordering : Ordering) : Ordering :=
  match order with
  | .ascending => ordering
  | .descending => ordering.swap

/-- What comes after a tie: the next position (1, 1, 3), or the next rank (1, 1, 2). -/
inductive RankMethod where
  | standard
  | dense
  deriving DecidableEq

instance : Labelled RankMethod where
  label
    | .standard => "standard"
    | .dense => "dense"
  all := [.standard, .dense]

/-- The rank of each value within its group. -/
structure Rank where
  column : String
  order : RankOrder
  method : RankMethod
  groups : List String
  newColumn : Option String
  deriving BEq

namespace Rank

def validate (rank : Rank) : Except StepError Unit :=
  requireName "valueCol" rank.column

def outputColumn (rank : Rank) : String :=
  rank.newColumn.getD (rank.column ++ "_RANK")

def compareRows? (order : RankOrder) (column : Column) (left right : Nat) : Option Ordering :=
  ((column.cellAt left).compare? (column.cellAt right)).map order.direct

/-- Number sorted rows. `position` counts the rows before, and `previous` is the last row with
its rank. -/
def number (method : RankMethod) (column : Column) :
    (position : Nat) → (previous : Option (Nat × Nat)) → List Nat → List (Nat × Nat)
  | _, _, [] => []
  | position, previous, row :: rest =>
      let rank :=
        match previous with
        | some (before, rank) =>
            if (column.cellAt before).compare? (column.cellAt row) == some .eq then rank
            else
              match method with
              | .standard => position + 1
              | .dense => rank + 1
        | none => 1
      (row, rank) :: number method column (position + 1) (some (row, rank)) rest

/-- The ranks of a group; empty cells have none.  That two cells do not compare is reported when the
sort is done, if it comes to an end. -/
def rankGroup (rank : Rank) (column : Column) (rows : List Nat) :
    Except StepError (List (Nat × Cell)) :=
  let ranked := rows.filter fun row => !(column.cellAt row).isNull
  match sortBy (noting (compareRows? rank.order column)) ranked none with
  | (none, _) => .error (.crashed .contradictoryOrder)
  | (some _, some (left, right)) =>
      .error (.incomparable column.name (column.cellAt left) (column.cellAt right))
  | (some sorted, none) =>
      .ok ((number rank.method column 0 none sorted).map fun (row, rank) =>
        (row, .integer (Int64.ofNat rank)))

def apply (rank : Rank) (table : Table) : Except StepError Table :=
  match table.column rank.column with
  | .error error => .error error
  | .ok column =>
      match table.groupRows rank.groups with
      | .error error => .error error
      | .ok groups =>
          match groups.mapM (rankGroup rank column) with
          | .error error => .error error
          | .ok placed =>
              table.withColumn
                { name := rank.outputColumn, cells := scatter table.rowCount placed.flatten }

def ofJson? (body : Json) : Option Rank :=
  match body.record? ["valueCol", "order", "method", "groupby", "newColumnName"] with
  | some [column, order, method, groups, newColumn] => do
      return { column := ← required text? column
               order := ← defaulted .ascending choice? order
               method := ← defaulted .standard choice? method
               groups := ← defaulted [] texts? groups
               newColumn := ← defaulted none textOrNull? newColumn }
  | _ => none

def fields (rank : Rank) : List (String × Json) :=
  [ ("valueCol", .string rank.column), ("order", ofChoice rank.order),
    ("method", ofChoice rank.method), ("groupby", ofTexts rank.groups) ] ++
    optionalField "newColumnName" rank.newColumn

end Rank

end TableFlow
