import TableFlow.Json.Record
import TableFlow.Table.Basic
import TableFlow.Transform.Check

/-!
# Evolution

Comparing each row with the row one period earlier, among the rows with the same values in some
index columns. There must be at most one row for each date and index.
-/

namespace TableFlow

open TableFlow.Json
open TableFlow.Number

/-- How far back to look. -/
inductive Period where
  | year
  | month
  | week
  | day
  deriving DecidableEq

instance : Labelled Period where
  label
    | .year => "vsLastYear"
    | .month => "vsLastMonth"
    | .week => "vsLastWeek"
    | .day => "vsLastDay"
  all := [.year, .month, .week, .day]

/-- The instant one period earlier; none if it lies before the calendar. A day that the earlier
month lacks becomes its last day. -/
def Period.before? (period : Period) (millis : Int) : Option Int :=
  match period with
  | .year => Calendar.monthsBefore? millis 12
  | .month => Calendar.monthsBefore? millis 1
  | .week => Calendar.daysBefore? millis 7
  | .day => Calendar.daysBefore? millis 1

/-- The instant one period earlier than an instant that has to lie in the calendar. -/
def Period.previous (period : Period) (millis : Int) : Except StepError (Option Int) :=
  match momentOf millis with
  | .error error => .error error
  | .ok _ => .ok (period.before? millis)

/-- What to compare: the difference, or the relative change. -/
inductive EvolutionFormat where
  | difference
  | ratio
  deriving DecidableEq

instance : Labelled EvolutionFormat where
  label
    | .difference => "abs"
    | .ratio => "pct"
  all := [.difference, .ratio]

/-- The comparison of a value with an earlier one; empty if one of them is, and for a ratio to
zero. A difference of integers that needs more than 64 bits becomes a float. -/
def EvolutionFormat.compare (format : EvolutionFormat) (current previous : Cell) : Cell :=
  match format, current, previous with
  | .difference, .integer now, .integer before =>
      match word? (now.toInt - before.toInt) with
      | some change => .integer change
      | none => .float (Cell.floatOf now - Cell.floatOf before)
  | _, _, _ =>
      match current.number?, previous.number? with
      | some now, some before =>
          match format with
          | .difference => .float (now - before)
          | .ratio => if before == 0.0 then .null else .float (now / before - 1.0)
      | _, _ => .null

/-- Compare each row with the row one period earlier. -/
structure Evolution where
  date : String
  value : String
  period : Period
  format : EvolutionFormat
  index : List String
  newColumn : Option String
  deriving BEq

/-- A row with a date and the cells of its index. -/
structure Dated where
  key : List Cell
  date : Int
  row : Nat

namespace Evolution

def validate (evolution : Evolution) : Except StepError Unit :=
  checkThen (requireName "dateCol" evolution.date) fun () =>
    checkThen (requireName "valueCol" evolution.value) fun () =>
      checkThen (requireEach "indexColumns" evolution.index) fun () =>
        match evolution.newColumn with
        | some name => requireName "newColumn" name
        | none => .ok ()

def outputColumn (evolution : Evolution) : String :=
  evolution.newColumn.getD
    (evolution.value ++
      match evolution.format with
      | .difference => "_EVOL_ABS"
      | .ratio => "_EVOL_PCT")

/-- The row of an index and a date. -/
def find? (dated : List Dated) (key : List Cell) (date : Int) : Option Nat :=
  (dated.find? fun entry => sameKey entry.key key && entry.date == date).map Dated.row

/-- Collect the rows with a date; a second row for an index and a date is an error. -/
def collect (column : String) (index : List Column) (found : List Dated) :
    List (Option Int × Nat) → Except StepError (List Dated)
  | [] => .ok found
  | (none, _) :: rest => collect column index found rest
  | (some date, row) :: rest =>
      let key := keyAt index row
      match find? found key date with
      | some _ => .error (.failed (.sharedDate (Calendar.instantText date) column))
      | none => collect column index (found ++ [{ key, date, row }]) rest

/-- The comparison of a row with the row one period earlier. -/
def compareRow (evolution : Evolution) (values : Column) (index : List Column)
    (dated : List Dated) : Option Int × Nat → Except StepError Cell
  | (none, _) => .ok .null
  | (some date, row) =>
      match evolution.period.previous date with
      | .error error => .error error
      | .ok none => .ok .null
      | .ok (some earlier) =>
          match find? dated (keyAt index row) earlier with
          | some previous =>
              .ok (evolution.format.compare (values.cellAt row) (values.cellAt previous))
          | none => .ok .null

/-- The table with the comparisons. -/
def apply (evolution : Evolution) (table : Table) : Except StepError Table :=
  match table.column evolution.date with
  | .error error => .error error
  | .ok dateColumn =>
      match instantsOf dateColumn with
      | .error error => .error error
      | .ok dates =>
          match table.column evolution.value with
          | .error error => .error error
          | .ok values =>
              match requireNumeric values .number with
              | .error error => .error error
              | .ok _ =>
                  match table.columnsOf evolution.index with
                  | .error error => .error error
                  | .ok index =>
                      match collect evolution.date index [] dates.zipIdx with
                      | .error error => .error error
                      | .ok dated =>
                          match dates.zipIdx.mapM (evolution.compareRow values index dated) with
                          | .error error => .error error
                          | .ok cells => table.withColumn { name := evolution.outputColumn, cells }

def ofJson? (body : Json) : Option Evolution :=
  match body.record?
      ["dateCol", "valueCol", "evolutionType", "evolutionFormat", "indexColumns", "newColumn"] with
  | some [date, value, period, format, index, newColumn] => do
      return { date := ← required text? date
               value := ← required text? value
               period := ← required choice? period
               format := ← required choice? format
               index := ← defaulted [] texts? index
               newColumn := ← defaulted none textOrNull? newColumn }
  | _ => none

def fields (evolution : Evolution) : List (String × Json) :=
  [ ("dateCol", .string evolution.date), ("valueCol", .string evolution.value),
    ("evolutionType", ofChoice evolution.period), ("evolutionFormat", ofChoice evolution.format),
    ("indexColumns", ofTexts evolution.index) ] ++
    optionalField "newColumn" evolution.newColumn

end Evolution

end TableFlow
