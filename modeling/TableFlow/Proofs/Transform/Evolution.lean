import TableFlow.Proofs.Table.ByRows
import TableFlow.Proofs.Table.Refinement
import TableFlow.Proofs.Transform.Functions
import TableFlow.Proofs.Transform.Period

/-!
# Comparisons with an earlier row

To find the row one period earlier, the rows with a date are collected first and then looked up by
their index and their date.  What is found is the one row with the same index at the earlier date,
as if all rows were searched for it, and it makes no difference in which order the rows come.  The
step fails if two rows could be meant, whether or not a third row looks for them, and if a date lies
outside the calendar.

Main statement: `Evolution.apply_searches`.
-/

namespace TableFlow

def Cell.instant? : Cell → Option Int
  | .timestamp millis => some millis.toInt
  | _ => none

theorem instantOf_eq_ok {column : String} {cell : Cell} (ofKind : cell.OfKind .timestamp) :
    instantOf column cell = .ok cell.instant? := by
  rcases ofKind with rfl | isTimestamp
  · rfl
  · cases cell <;> cases isTimestamp
    rfl

namespace Evolution

section Rows

variable (evolution : Evolution) (table : Table)

def dateAt (row : Nat) : Option Int :=
  (table.cellAt row evolution.date).instant?

/-- Two rows have the same date and the same index. -/
def Clashes : Prop :=
  ∃ first < table.rowCount, ∃ second < table.rowCount, first ≠ second ∧
    table.AgreeOn evolution.index first second ∧
    ∃ date, evolution.dateAt table first = some date ∧ evolution.dateAt table second = some date

/-- A row has a date outside the calendar. -/
def LeavesCalendar : Prop :=
  ∃ row < table.rowCount, ∃ date, evolution.dateAt table row = some date ∧
    Calendar.isRepresentable date = false

/-- A row has the index of another row and lies exactly one period before it. -/
structure Precedes (earlier row : Nat) : Prop where
  bound : earlier < table.rowCount
  sameIndex : table.AgreeOn evolution.index earlier row
  date : ∃ date before, evolution.dateAt table row = some date ∧
    evolution.period.previous date = .ok (some before) ∧
    evolution.dateAt table earlier = some before

/-- A cell compares a row with the row before it, and is empty if there is none. -/
structure Shows (row : Nat) (cell : Cell) : Prop where
  compared : ∀ earlier, evolution.Precedes table earlier row →
    cell = evolution.format.compare (table.cellAt row evolution.value)
      (table.cellAt earlier evolution.value)
  empty : (∀ earlier, ¬ evolution.Precedes table earlier row) → cell = .null

/-- A table that can be compared: dates and numbers where they are wanted, and all columns of the
index. -/
structure Suits : Prop where
  wellFormed : table.WellFormed
  knownDate : table.hasColumn evolution.date = true
  dates : ∀ row < table.rowCount, (table.cellAt row evolution.date).OfKind .timestamp
  knownValue : table.hasColumn evolution.value = true
  numbers : ∀ row < table.rowCount, ∀ kind,
    (table.cellAt row evolution.value).kind? = some kind → kind.isNumeric = true
  knownIndex : ∀ name ∈ evolution.index, table.hasColumn name = true

end Rows

variable {evolution : Evolution} {table : Table}

theorem Precedes.exists_before {earlier row : Nat} {date : Int}
    (precedes : evolution.Precedes table earlier row)
    (ofRow : evolution.dateAt table row = some date) :
    ∃ before, evolution.period.previous date = .ok (some before) ∧
      evolution.dateAt table earlier = some before := by
  obtain ⟨_, before, ofRowAgain, previous, ofEarlier⟩ := precedes.date
  rw [ofRow] at ofRowAgain
  cases ofRowAgain
  exact ⟨before, previous, ofEarlier⟩

/-- Without a clash at most one row lies one period before another one. -/
theorem Precedes.unique (noClash : ¬ evolution.Clashes table) {earlier other row : Nat}
    (precedes : evolution.Precedes table earlier row)
    (otherPrecedes : evolution.Precedes table other row) : earlier = other := by
  by_contra different
  obtain ⟨date, before, ofRow, previous, ofEarlier⟩ := precedes.date
  obtain ⟨_, previousAgain, ofOther⟩ := otherPrecedes.exists_before ofRow
  rw [previous] at previousAgain
  cases previousAgain
  exact noClash ⟨earlier, precedes.bound, other, otherPrecedes.bound, different,
    precedes.sameIndex.trans otherPrecedes.sameIndex.symm, before, ofEarlier, ofOther⟩

theorem shows_null {row : Nat} (none : ∀ earlier, ¬ evolution.Precedes table earlier row) :
    evolution.Shows table row .null :=
  ⟨fun earlier precedes => absurd precedes (none earlier), fun _ => rfl⟩

theorem shows_compare (noClash : ¬ evolution.Clashes table) {earlier row : Nat}
    (precedes : evolution.Precedes table earlier row) :
    evolution.Shows table row (evolution.format.compare (table.cellAt row evolution.value)
      (table.cellAt earlier evolution.value)) := by
  constructor
  · intro other otherPrecedes
    rw [precedes.unique noClash otherPrecedes]
  · intro none
    exact absurd precedes (none earlier)

theorem Shows.unique {row : Nat} {cell other : Cell} (shows : evolution.Shows table row cell)
    (otherShows : evolution.Shows table row other) : cell = other := by
  by_cases found : ∃ earlier, evolution.Precedes table earlier row
  · obtain ⟨earlier, precedes⟩ := found
    rw [shows.compared earlier precedes, otherShows.compared earlier precedes]
  · rw [shows.empty (not_exists.1 found), otherShows.empty (not_exists.1 found)]

/-- The entry of a row with a date. -/
def datedRow (index : List Column) (dateOf : Nat → Option Int) (row : Nat) : Option Dated :=
  (dateOf row).map fun date => { key := keyAt index row, date, row }

/-- The entries of all rows of a table. -/
def entries (evolution : Evolution) (table : Table) (index : List Column) : List Dated :=
  (List.range table.rowCount).filterMap (datedRow index (evolution.dateAt table))

/-- No two entries have the same key and the same date. -/
def Distinct (dated : List Dated) : Prop :=
  dated.Pairwise fun earlier later =>
    ¬ (sameKey earlier.key later.key = true ∧ earlier.date = later.date)

theorem find?_eq_none_iff {dated : List Dated} {key : List Cell} {date : Int} :
    find? dated key date = none ↔
      ∀ entry ∈ dated, ¬ (sameKey entry.key key = true ∧ entry.date = date) := by
  simp [find?]

/-- Collecting goes on as long as the entries differ, and fails at the first that does not. -/
theorem collect_cases (column : String) (index : List Column) (dateOf : Nat → Option Int)
    (rows : List Nat) (found : List Dated) (distinct : Distinct found) :
    (Distinct (found ++ rows.filterMap (datedRow index dateOf)) ∧
      collect column index found (rows.map fun row => (dateOf row, row)) =
        .ok (found ++ rows.filterMap (datedRow index dateOf))) ∨
    (¬ Distinct (found ++ rows.filterMap (datedRow index dateOf)) ∧
      ∃ fault, collect column index found (rows.map fun row => (dateOf row, row)) =
        .error (.failed fault)) := by
  induction rows generalizing found with
  | nil => exact .inl ⟨by simpa using distinct, by simp [collect]⟩
  | cons row rest ih =>
      rw [List.map_cons, List.filterMap_cons]
      cases dated : dateOf row with
      | none =>
          simp only [datedRow, dated, Option.map_none, collect]
          exact ih found distinct
      | some date =>
          simp only [datedRow, dated, Option.map_some, collect]
          cases known : find? found (keyAt index row) date with
          | some other =>
              refine .inr ⟨?_, _, rfl⟩
              intro allDistinct
              have absent : find? found (keyAt index row) date = none := by
                rw [find?_eq_none_iff]
                intro entry member
                exact (List.pairwise_append.1 allDistinct).2.2 entry member _ List.mem_cons_self
              rw [known] at absent
              cases absent
          | none =>
              have grown : Distinct (found ++ [{ key := keyAt index row, date, row }]) := by
                rw [find?_eq_none_iff] at known
                refine List.pairwise_append.2 ⟨distinct, List.pairwise_singleton _ _, ?_⟩
                intro entry member later inLast
                cases List.mem_singleton.1 inLast
                exact known entry member
              simpa only [List.append_assoc, List.singleton_append] using ih _ grown

section Columns

variable {index : List Column} (foundIndex : table.columnsOf evolution.index = .ok index)

include foundIndex

theorem sameKey_keyAt_iff {first second : Nat} :
    sameKey (keyAt index first) (keyAt index second) = true ↔
      table.AgreeOn evolution.index first second := by
  rw [Table.keyAt_of_columnsOf foundIndex, Table.keyAt_of_columnsOf foundIndex, sameKey_map_iff]
  rfl

/-- The entries of all rows differ exactly if no two rows clash. -/
theorem distinct_entries_iff :
    Distinct (evolution.entries table index) ↔ ¬ evolution.Clashes table := by
  rw [Distinct, entries, List.pairwise_filterMap, List.pairwise_iff_getElem]
  constructor
  · rintro distinct ⟨first, firstBound, second, secondBound, different, same, date, ofFirst,
      ofSecond⟩
    have apart {left right : Nat} (leftBound : left < table.rowCount)
        (rightBound : right < table.rowCount) (less : left < right)
        (same : table.AgreeOn evolution.index left right)
        (ofLeft : evolution.dateAt table left = some date)
        (ofRight : evolution.dateAt table right = some date) : False :=
      distinct left right (by simpa using leftBound) (by simpa using rightBound) less
        ⟨keyAt index left, date, left⟩ (by simp [datedRow, ofLeft])
        ⟨keyAt index right, date, right⟩ (by simp [datedRow, ofRight])
        ⟨(sameKey_keyAt_iff foundIndex).2 same, rfl⟩
    rcases Nat.lt_or_gt_of_ne different with less | greater
    · exact apart firstBound secondBound less same ofFirst ofSecond
    · exact apart secondBound firstBound greater same.symm ofSecond ofFirst
  · rintro noClash first second firstBound secondBound less earlier isEarlier later isLater
      ⟨same, sameDate⟩
    rw [List.getElem_range, datedRow, Option.map_eq_some_iff] at isEarlier isLater
    obtain ⟨date, ofFirst, rfl⟩ := isEarlier
    obtain ⟨otherDate, ofSecond, rfl⟩ := isLater
    cases sameDate
    exact noClash ⟨first, by simpa using firstBound, second, by simpa using secondBound,
      Nat.ne_of_lt less, (sameKey_keyAt_iff foundIndex).1 same, date, ofFirst, ofSecond⟩

/-- The dates of a table are collected unless two rows clash. -/
theorem collect_range_cases :
    (¬ evolution.Clashes table ∧
      collect evolution.date index []
          ((List.range table.rowCount).map fun row => (evolution.dateAt table row, row)) =
        .ok (evolution.entries table index)) ∨
    (evolution.Clashes table ∧
      ∃ fault, collect evolution.date index []
          ((List.range table.rowCount).map fun row => (evolution.dateAt table row, row)) =
        .error (.failed fault)) := by
  rcases collect_cases evolution.date index (evolution.dateAt table) (List.range table.rowCount) []
    List.Pairwise.nil with ⟨distinct, collected⟩ | ⟨notDistinct, failed⟩
  · exact .inl ⟨(distinct_entries_iff foundIndex).1 distinct, collected⟩
  · refine .inr ⟨?_, failed⟩
    by_contra noClash
    exact notDistinct ((distinct_entries_iff foundIndex).2 noClash)

/-- Among the entries of all rows a search finds a row with the date and the index. -/
theorem exists_of_find? {row found : Nat} {date : Int}
    (search : find? (evolution.entries table index) (keyAt index row) date = some found) :
    found < table.rowCount ∧ table.AgreeOn evolution.index found row ∧
      evolution.dateAt table found = some date := by
  obtain ⟨entry, isFound, rfl⟩ := Option.map_eq_some_iff.1 search
  have fits := List.find?_some isFound
  obtain ⟨other, inRange, isEntry⟩ := List.mem_filterMap.1 (List.mem_of_find?_eq_some isFound)
  obtain ⟨otherDate, ofOther, rfl⟩ := Option.map_eq_some_iff.1 isEntry
  rw [Bool.and_eq_true, sameKey_keyAt_iff foundIndex, beq_iff_eq] at fits
  exact ⟨List.mem_range.1 inRange, fits.1, fits.2 ▸ ofOther⟩

theorem not_agreeOn_of_find? {row other : Nat} {date : Int}
    (search : find? (evolution.entries table index) (keyAt index row) date = none)
    (bound : other < table.rowCount) (ofOther : evolution.dateAt table other = some date) :
    ¬ table.AgreeOn evolution.index other row := by
  intro same
  have member : Dated.mk (keyAt index other) date other ∈ evolution.entries table index :=
    List.mem_filterMap.2 ⟨other, List.mem_range.2 bound, by simp [datedRow, ofOther]⟩
  exact find?_eq_none_iff.1 search _ member ⟨(sameKey_keyAt_iff foundIndex).2 same, rfl⟩

end Columns

theorem instantsOf_eq_ok (suits : evolution.Suits table) {dates : Column}
    (found : table.column evolution.date = .ok dates) :
    instantsOf dates = .ok ((List.range table.rowCount).map (evolution.dateAt table)) := by
  rw [instantsOf, suits.wellFormed.cells_eq_map found]
  have each : ∀ cell ∈ (List.range table.rowCount).map fun row => table.cellAt row evolution.date,
      instantOf dates.name cell = .ok cell.instant? := by
    rw [List.forall_mem_map]
    exact fun row member => instantOf_eq_ok (suits.dates row (List.mem_range.1 member))
  rw [mapM_eq_ok_map each, List.map_map]
  rfl

theorem requireNumeric_eq_ok (suits : evolution.Suits table) {values : Column}
    (found : table.column evolution.value = .ok values) :
    requireNumeric values .number = .ok values.kinds := by
  apply requireNumeric_eq_ok_iff.2 ⟨?_, rfl⟩
  intro kind member
  obtain ⟨cell, inColumn, ofKind⟩ := Column.mem_kinds.1 member
  rw [suits.wellFormed.cells_eq_map found] at inColumn
  obtain ⟨row, inRange, rfl⟩ := List.mem_map.1 inColumn
  exact suits.numbers row (List.mem_range.1 inRange) kind ofKind

/-- In a table that can be compared, only the dates can make the step fail. -/
theorem apply_eq (suits : evolution.Suits table) {values : Column} {index : List Column}
    (foundValues : table.column evolution.value = .ok values)
    (foundIndex : table.columnsOf evolution.index = .ok index) :
    evolution.apply table =
      (collect evolution.date index []
          ((List.range table.rowCount).map fun row => (evolution.dateAt table row, row))).bind
        fun dated =>
          ((List.range table.rowCount).mapM fun row =>
              evolution.compareRow values index dated (evolution.dateAt table row, row)).bind
            fun cells => table.withColumn { name := evolution.outputColumn, cells } := by
  obtain ⟨dates, foundDates⟩ := Table.exists_column suits.knownDate
  simp only [apply, foundDates, instantsOf_eq_ok suits foundDates, foundValues,
    requireNumeric_eq_ok suits foundValues, foundIndex, zipIdx_map_range, List.mapM_map]
  cases collect evolution.date index []
      ((List.range table.rowCount).map fun row => (evolution.dateAt table row, row)) with
  | error error => rfl
  | ok dated =>
      simp only [Except.bind, Function.comp_def]
      cases (List.range table.rowCount).mapM fun row =>
        evolution.compareRow values index dated (evolution.dateAt table row, row) <;> rfl

/-! ## Rows compared and rows that fail -/

/-- A row with a date outside the calendar fails, and any other one shows what it has to. -/
theorem compareRow_cases (noClash : ¬ evolution.Clashes table) {values : Column}
    {index : List Column} (foundValues : table.column evolution.value = .ok values)
    (foundIndex : table.columnsOf evolution.index = .ok index) (row : Nat) :
    (∃ date, evolution.dateAt table row = some date ∧ Calendar.isRepresentable date = false ∧
      evolution.compareRow values index (evolution.entries table index)
          (evolution.dateAt table row, row) =
        .error (.failed (.instantOutOfRange date))) ∨
    ((∀ date, evolution.dateAt table row = some date → Calendar.isRepresentable date = true) ∧
      ∃ cell, evolution.compareRow values index (evolution.entries table index)
          (evolution.dateAt table row, row) = .ok cell ∧ evolution.Shows table row cell) := by
  cases ofRow : evolution.dateAt table row with
  | none =>
      refine .inr ⟨by simp, .null, rfl, shows_null ?_⟩
      intro earlier precedes
      obtain ⟨date, before, ofRowAgain, -⟩ := precedes.date
      rw [ofRow] at ofRowAgain
      cases ofRowAgain
  | some date =>
      cases representable : Calendar.isRepresentable date with
      | false =>
          refine .inl ⟨date, rfl, representable, ?_⟩
          simp [compareRow, Period.previous, momentOf, Calendar.Moment.ofMillis?, representable]
      | true =>
          refine .inr ⟨by simpa using representable, ?_⟩
          have previous := evolution.period.previous_eq representable
          simp only [compareRow, previous]
          cases before : evolution.period.before? date with
          | none =>
              refine ⟨.null, rfl, shows_null ?_⟩
              intro earlier precedes
              obtain ⟨_, previousAgain, -⟩ := precedes.exists_before ofRow
              rw [previous, before] at previousAgain
              cases previousAgain
          | some earlierDate =>
              rw [before] at previous
              simp only
              cases search :
                find? (evolution.entries table index) (keyAt index row) earlierDate with
              | none =>
                  refine ⟨.null, rfl, shows_null ?_⟩
                  intro earlier precedes
                  obtain ⟨_, previousAgain, ofEarlier⟩ := precedes.exists_before ofRow
                  rw [previous] at previousAgain
                  cases previousAgain
                  exact not_agreeOn_of_find? foundIndex search precedes.bound ofEarlier
                    precedes.sameIndex
              | some earlier =>
                  obtain ⟨bound, same, ofEarlier⟩ := exists_of_find? foundIndex search
                  simp only [← Table.cellAt_eq_of_column foundValues]
                  exact ⟨_, rfl, shows_compare noClash
                    ⟨bound, same, date, earlierDate, ofRow, previous, ofEarlier⟩⟩

section Tables

variable (suits : evolution.Suits table)

include suits

/-- Without a clash and a date outside the calendar the step writes what every row has to show. -/
theorem exists_apply_eq (noClash : ¬ evolution.Clashes table)
    (stays : ¬ evolution.LeavesCalendar table) :
    ∃ cell : Nat → Cell, (∀ row < table.rowCount, evolution.Shows table row (cell row)) ∧
      evolution.apply table = table.withColumn
        { name := evolution.outputColumn, cells := (List.range table.rowCount).map cell } := by
  obtain ⟨values, foundValues⟩ := Table.exists_column suits.knownValue
  obtain ⟨index, foundIndex⟩ := Table.exists_columnsOf suits.knownIndex
  have each (row : Nat) (bound : row < table.rowCount) :
      ∃ cell, evolution.compareRow values index (evolution.entries table index)
          (evolution.dateAt table row, row) = .ok cell ∧ evolution.Shows table row cell := by
    rcases compareRow_cases noClash foundValues foundIndex row with
      ⟨date, ofRow, outside, -⟩ | ⟨-, shown⟩
    · exact absurd ⟨row, bound, date, ofRow, outside⟩ stays
    · exact shown
  have inhabited : Nonempty Cell := ⟨.null⟩
  choose! cell compared shows using each
  refine ⟨cell, shows, ?_⟩
  rw [apply_eq suits foundValues foundIndex]
  rcases collect_range_cases foundIndex with ⟨-, collected⟩ | ⟨clash, -⟩
  · rw [collected]
    simp only [Except.bind]
    rw [mapM_eq_ok_map fun row member => compared row (List.mem_range.1 member)]
  · exact absurd clash noClash

/-- A clash or a date outside the calendar makes the step fail. -/
theorem exists_apply_error (fails : evolution.Clashes table ∨ evolution.LeavesCalendar table) :
    ∃ fault, evolution.apply table = .error (.failed fault) := by
  obtain ⟨values, foundValues⟩ := Table.exists_column suits.knownValue
  obtain ⟨index, foundIndex⟩ := Table.exists_columnsOf suits.knownIndex
  rw [apply_eq suits foundValues foundIndex]
  rcases collect_range_cases foundIndex with ⟨noClash, collected⟩ | ⟨-, fault, failed⟩
  · obtain ⟨row, bound, date, ofRow, outside⟩ := fails.resolve_left noClash
    rw [collected]
    simp only [Except.bind]
    cases traversed : (List.range table.rowCount).mapM fun row => evolution.compareRow values index
        (evolution.entries table index) (evolution.dateAt table row, row) with
    | error error =>
        obtain ⟨failing, -, failed⟩ := exists_of_mapM_eq_error traversed
        rcases compareRow_cases noClash foundValues foundIndex failing with
          ⟨date, -, -, outOfRange⟩ | ⟨-, cell, compared, -⟩
        · rw [outOfRange] at failed
          cases failed
          exact ⟨_, rfl⟩
        · rw [compared] at failed
          cases failed
    | ok cells =>
        obtain ⟨cell, each, -⟩ := exists_of_mapM_eq_ok .null traversed
        have compared := each row (List.mem_range.2 bound)
        rcases compareRow_cases noClash foundValues foundIndex row with
          ⟨date, -, -, outOfRange⟩ | ⟨inCalendar, -⟩
        · rw [outOfRange] at compared
          cases compared
        · rw [inCalendar date ofRow] at outside
          cases outside
  · rw [failed]
    exact ⟨fault, rfl⟩

theorem exists_apply_iff :
    (∃ output, evolution.apply table = .ok output) ↔
      ¬ evolution.Clashes table ∧ ¬ evolution.LeavesCalendar table := by
  constructor
  · rintro ⟨output, applied⟩
    rw [← not_or]
    intro fails
    obtain ⟨fault, failed⟩ := exists_apply_error suits fails
    rw [applied] at failed
    cases failed
  · rintro ⟨noClash, stays⟩
    obtain ⟨cell, -, applied⟩ := exists_apply_eq suits noClash stays
    obtain ⟨output, added, -⟩ := suits.wellFormed.exists_withColumn
      { name := evolution.outputColumn, cells := (List.range table.rowCount).map cell } (by simp)
    exact ⟨output, applied.trans added⟩

theorem exists_error_iff :
    (∃ error, evolution.apply table = .error error) ↔
      evolution.Clashes table ∨ evolution.LeavesCalendar table := by
  constructor
  · rintro ⟨error, failed⟩
    by_contra succeeds
    obtain ⟨output, applied⟩ := (exists_apply_iff suits).2 (not_or.1 succeeds)
    rw [applied] at failed
    cases failed
  · intro fails
    obtain ⟨fault, failed⟩ := exists_apply_error suits fails
    exact ⟨_, failed⟩

/-- Where the step succeeds every row shows what it has to. -/
theorem shows_of_apply {output : Table} (applied : evolution.apply table = .ok output) :
    output.rowCount = table.rowCount ∧
      ∀ row < table.rowCount,
        evolution.Shows table row (output.cellAt row evolution.outputColumn) := by
  obtain ⟨noClash, stays⟩ := (exists_apply_iff suits).1 ⟨output, applied⟩
  obtain ⟨cell, shows, appliedEq⟩ := exists_apply_eq suits noClash stays
  have added := appliedEq.symm.trans applied
  obtain ⟨built, addedBuilt, rowCount⟩ := suits.wellFormed.exists_withColumn
    { name := evolution.outputColumn, cells := (List.range table.rowCount).map cell } (by simp)
  cases added.symm.trans addedBuilt
  refine ⟨rowCount, ?_⟩
  intro row bound
  have inRange : (List.range table.rowCount)[row]? = some row := List.getElem?_range bound
  rw [Table.cellAt_eq_of_column (Table.column_of_withColumn added), Column.cellAt_map inRange]
  exact shows row bound

end Tables

/-! ## Comparisons in another order -/

section Shuffled

variable {order : List Nat}

theorem dateAt_takeRows {index : Nat} (bound : index < order.length) :
    evolution.dateAt (table.takeRows order) index = evolution.dateAt table order[index] := by
  rw [dateAt, Table.cellAt_takeRows bound, dateAt]

theorem agreeOn_takeRows_iff {first second : Nat} (firstBound : first < order.length)
    (secondBound : second < order.length) :
    (table.takeRows order).AgreeOn evolution.index first second ↔
      table.AgreeOn evolution.index order[first] order[second] := by
  simp only [Table.AgreeOn, Table.cellAt_takeRows firstBound, Table.cellAt_takeRows secondBound]

variable (shuffle : order.Perm (List.range table.rowCount))

include shuffle

theorem clashes_takeRows_iff :
    evolution.Clashes (table.takeRows order) ↔ evolution.Clashes table := by
  have nodup : order.Nodup := shuffle.symm.nodup List.nodup_range
  constructor
  · rintro ⟨first, firstBound, second, secondBound, different, same, date, ofFirst, ofSecond⟩
    rw [Table.rowCount_takeRows] at firstBound secondBound
    rw [agreeOn_takeRows_iff firstBound secondBound] at same
    rw [dateAt_takeRows firstBound] at ofFirst
    rw [dateAt_takeRows secondBound] at ofSecond
    refine ⟨_, getElem_lt_of_shuffle shuffle firstBound, _,
      getElem_lt_of_shuffle shuffle secondBound, ?_, same, date, ofFirst, ofSecond⟩
    exact fun equal => different (nodup.getElem_inj_iff.1 equal)
  · rintro ⟨first, firstBound, second, secondBound, different, same, date, ofFirst, ofSecond⟩
    obtain ⟨firstIndex, firstInside, rfl⟩ := exists_getElem_of_shuffle shuffle firstBound
    obtain ⟨secondIndex, secondInside, rfl⟩ := exists_getElem_of_shuffle shuffle secondBound
    refine ⟨firstIndex, firstInside, secondIndex, secondInside, ?_,
      (agreeOn_takeRows_iff firstInside secondInside).2 same, date,
      (dateAt_takeRows firstInside).trans ofFirst, (dateAt_takeRows secondInside).trans ofSecond⟩
    rintro rfl
    exact different rfl

theorem leavesCalendar_takeRows_iff :
    evolution.LeavesCalendar (table.takeRows order) ↔ evolution.LeavesCalendar table := by
  constructor
  · rintro ⟨index, bound, date, ofRow, outside⟩
    rw [dateAt_takeRows bound] at ofRow
    exact ⟨_, getElem_lt_of_shuffle shuffle bound, date, ofRow, outside⟩
  · rintro ⟨row, bound, date, ofRow, outside⟩
    obtain ⟨index, inside, rfl⟩ := exists_getElem_of_shuffle shuffle bound
    exact ⟨index, inside, date, (dateAt_takeRows inside).trans ofRow, outside⟩

theorem precedes_takeRows_iff {earlier row : Nat} (earlierBound : earlier < order.length)
    (rowBound : row < order.length) :
    evolution.Precedes (table.takeRows order) earlier row ↔
      evolution.Precedes table order[earlier] order[row] := by
  constructor
  · rintro ⟨-, same, dates⟩
    rw [dateAt_takeRows rowBound, dateAt_takeRows earlierBound] at dates
    exact ⟨getElem_lt_of_shuffle shuffle earlierBound,
      (agreeOn_takeRows_iff earlierBound rowBound).1 same, dates⟩
  · rintro ⟨-, same, dates⟩
    rw [← dateAt_takeRows rowBound, ← dateAt_takeRows earlierBound] at dates
    exact ⟨earlierBound, (agreeOn_takeRows_iff earlierBound rowBound).2 same, dates⟩

/-- A row shows in another order what it shows in the first one. -/
theorem Shows.takeRows {row : Nat} (bound : row < order.length) {cell : Cell}
    (shows : evolution.Shows table order[row] cell) :
    evolution.Shows (table.takeRows order) row cell := by
  constructor
  · intro earlier precedes
    have inside : earlier < order.length := precedes.bound
    rw [Table.cellAt_takeRows bound, Table.cellAt_takeRows inside]
    exact shows.compared _ ((precedes_takeRows_iff shuffle inside bound).1 precedes)
  · intro none
    apply shows.empty
    intro earlier precedes
    obtain ⟨index, inside, rfl⟩ := exists_getElem_of_shuffle shuffle precedes.bound
    exact none index ((precedes_takeRows_iff shuffle inside bound).2 precedes)

theorem Suits.takeRows (suits : evolution.Suits table) :
    evolution.Suits (table.takeRows order) where
  wellFormed := suits.wellFormed.takeRows order
  knownDate := by rw [Table.hasColumn_takeRows, suits.knownDate]
  dates := by
    intro row bound
    rw [Table.cellAt_takeRows bound]
    exact suits.dates _ (getElem_lt_of_shuffle shuffle bound)
  knownValue := by rw [Table.hasColumn_takeRows, suits.knownValue]
  numbers := by
    intro row bound
    rw [Table.cellAt_takeRows bound]
    exact suits.numbers _ (getElem_lt_of_shuffle shuffle bound)
  knownIndex := by
    intro name member
    rw [Table.hasColumn_takeRows, suits.knownIndex name member]

/-- With its rows in another order a table gives its output in that order. -/
theorem apply_takeRows (suits : evolution.Suits table) {output : Table}
    (applied : evolution.apply table = .ok output) :
    evolution.apply (table.takeRows order) = .ok (output.takeRows order) := by
  obtain ⟨noClash, stays⟩ := (exists_apply_iff suits).1 ⟨output, applied⟩
  obtain ⟨cell, shows, appliedEq⟩ := exists_apply_eq suits noClash stays
  obtain ⟨shuffledCell, shuffledShows, shuffledEq⟩ := exists_apply_eq (suits.takeRows shuffle)
    ((clashes_takeRows_iff shuffle).not.2 noClash)
    ((leavesCalendar_takeRows_iff shuffle).not.2 stays)
  have cells : (List.range order.length).map shuffledCell = order.map cell := by
    apply map_range_eq_map
    intro index bound
    exact (shuffledShows index bound).unique
      (Shows.takeRows shuffle bound (shows _ (getElem_lt_of_shuffle shuffle bound)))
  have inside : ∀ row ∈ order, row < table.rowCount :=
    fun row member => List.mem_range.1 (shuffle.subset member)
  have taken := Table.withColumn_takeRows order (appliedEq.symm.trans applied)
  rw [Column.takeRows_map_range _ cell inside] at taken
  rw [shuffledEq, Table.rowCount_takeRows, cells, taken]

end Shuffled

/-- The comparisons fail exactly if two rows have the same date and the same index, or if a date
lies outside the calendar.  Otherwise every row is compared with the one row that has its index and
lies exactly one period before it, and shows an empty cell if there is none.  So the rows may come
in any order. -/
theorem apply_searches (evolution : Evolution) (table : Table) (suits : evolution.Suits table) :
    ((∃ error, evolution.apply table = .error error) ↔
      evolution.Clashes table ∨ evolution.LeavesCalendar table) ∧
    (∀ error, evolution.apply table = .error error → ∃ fault, error = .failed fault) ∧
    (∀ output, evolution.apply table = .ok output →
      output.rowCount = table.rowCount ∧
      ∀ row < table.rowCount,
        (∀ earlier other, evolution.Precedes table earlier row →
          evolution.Precedes table other row →
          earlier = other) ∧
        evolution.Shows table row (output.cellAt row evolution.outputColumn)) ∧
    ∀ order : List Nat, order.Perm (List.range table.rowCount) → ∀ result,
      evolution.apply (table.takeRows order) = .ok result ↔
        ∃ output, evolution.apply table = .ok output ∧ result = output.takeRows order := by
  refine ⟨exists_error_iff suits, ?_, ?_, ?_⟩
  · intro error failed
    obtain ⟨fault, failedAgain⟩ :=
      exists_apply_error suits ((exists_error_iff suits).1 ⟨error, failed⟩)
    rw [failed] at failedAgain
    exact ⟨fault, Except.error.inj failedAgain⟩
  · intro output applied
    obtain ⟨noClash, -⟩ := (exists_apply_iff suits).1 ⟨output, applied⟩
    obtain ⟨rowCount, shows⟩ := shows_of_apply suits applied
    exact ⟨rowCount, fun row bound =>
      ⟨fun earlier other precedes => precedes.unique noClash, shows row bound⟩⟩
  · intro order shuffle result
    constructor
    · intro applied
      obtain ⟨noClash, stays⟩ := (exists_apply_iff (suits.takeRows shuffle)).1 ⟨result, applied⟩
      rw [clashes_takeRows_iff shuffle] at noClash
      rw [leavesCalendar_takeRows_iff shuffle] at stays
      obtain ⟨output, appliedFirst⟩ := (exists_apply_iff suits).2 ⟨noClash, stays⟩
      rw [apply_takeRows shuffle suits appliedFirst] at applied
      exact ⟨output, appliedFirst, (Except.ok.inj applied).symm⟩
    · rintro ⟨output, applied, rfl⟩
      exact apply_takeRows shuffle suits applied

/-- Sales of two shops, one of them without a name: the 30th and the 31st of March lack their days
in February, and one sale has no date. -/
def shopSales : Table :=
  { columns :=
      [⟨"shop", [.null, .text "a", .null, .null, .null]⟩,
       ⟨"day", [.timestamp 1617148800000, .timestamp 1614470400000, .timestamp 1614470400000, .null,
         .timestamp 1617062400000]⟩,
       ⟨"sold", [.integer 6, .integer 10, .integer 4, .integer 9, .integer 3]⟩]
    rowCount := 5 }

/-- The change against the month before among the rows with the same cells in some columns. -/
def againstLastMonth (index : List String) : Evolution :=
  { date := "day", value := "sold", period := .month, format := .difference, index,
    newColumn := some "change" }

def shopSalesWithChanges : Table :=
  { columns := shopSales.columns ++ [⟨"change", [.integer 2, .null, .null, .null, .integer (-1)]⟩]
    rowCount := 5 }

theorem suits_shopSales {index : List String} (known : ∀ name ∈ index, name = "shop") :
    (againstLastMonth index).Suits shopSales where
  wellFormed := ⟨by decide, by decide⟩
  knownDate := rfl
  dates := by
    intro row _
    have found : shopSales.column "day" = .ok ⟨"day", [.timestamp 1617148800000,
      .timestamp 1614470400000, .timestamp 1614470400000, .null, .timestamp 1617062400000]⟩ := rfl
    apply (Table.holdsOnly_iff found).1
    simp [Column.HoldsOnly, Cell.OfKind, Cell.kind?]
  knownValue := rfl
  numbers := by
    intro row bound kind ofKind
    have found : shopSales.column "sold" =
      .ok ⟨"sold", [.integer 6, .integer 10, .integer 4, .integer 9, .integer 3]⟩ := rfl
    have integers : (shopSales.cellAt row "sold").OfKind .integer := by
      apply (Table.holdsOnly_iff found).1
      simp [Column.HoldsOnly, Cell.OfKind, Cell.kind?]
    rcases integers with empty | isInteger
    · rw [againstLastMonth, empty] at ofKind
      cases ofKind
    · cases ofKind.symm.trans isInteger
      rfl
  knownIndex := by
    intro name member
    rw [known name member]
    rfl

/-- Both ends of March are compared with the end of February, from the last sale backwards too.
Without regard to the shops February has two sales. -/
theorem apply_searches_shopSales :
    (againstLastMonth ["shop"]).Suits shopSales ∧
      (againstLastMonth ["shop"]).apply shopSales = .ok shopSalesWithChanges ∧
      (againstLastMonth ["shop"]).Shows shopSales 4 (.integer (-1)) ∧
      (againstLastMonth ["shop"]).apply (shopSales.takeRows [4, 3, 2, 1, 0]) =
        .ok (shopSalesWithChanges.takeRows [4, 3, 2, 1, 0]) ∧
      (againstLastMonth []).Suits shopSales ∧
      (againstLastMonth []).apply shopSales =
        .error (.failed (.sharedDate "2021-02-28 00:00:00" "day")) ∧
      ((againstLastMonth []).Clashes shopSales ∨
        (againstLastMonth []).LeavesCalendar shopSales) := by
  have applied : (againstLastMonth ["shop"]).apply shopSales = .ok shopSalesWithChanges := rfl
  have failed : (againstLastMonth []).apply shopSales =
      .error (.failed (.sharedDate "2021-02-28 00:00:00" "day")) := rfl
  have byShop : (againstLastMonth ["shop"]).Suits shopSales := suits_shopSales (by simp)
  have together : (againstLastMonth []).Suits shopSales := suits_shopSales (by simp)
  obtain ⟨-, -, rows, orders⟩ := apply_searches (againstLastMonth ["shop"]) shopSales byShop
  obtain ⟨failures, -⟩ := apply_searches (againstLastMonth []) shopSales together
  exact ⟨byShop, applied, ((rows _ applied).2 4 (by decide)).2,
    (orders [4, 3, 2, 1, 0] (by decide) _).2 ⟨_, applied, rfl⟩, together, failed,
    failures.1 ⟨_, failed⟩⟩

end Evolution

end TableFlow
