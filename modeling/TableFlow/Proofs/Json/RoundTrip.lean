import TableFlow.Json.Reader
import TableFlow.Proofs.Json.Number
import TableFlow.Proofs.Json.Text

/-!
# Documents read back

A writable document reads back from its text exactly if it nests no deeper than the reader
allows, provided that its floats read back. The reader looks at a value together with what
follows, so the statement about one value leaves the rest of the text open and says that the
reader stops right behind the value.

Main statements: `readsWithin_of_writable` for a value inside a text, `read?_render` for a whole
text, and `writable_of_read?`, which says that what is read can be written.
-/

namespace TableFlow.Json

open TableFlow.Number

/-- A text that starts with a character of a value. -/
def Opens (chars : List Char) : Prop :=
  ∃ first tail, chars = first :: tail ∧ isSpace first = false ∧ first ≠ ']' ∧ first ≠ '\x7d'

theorem Opens.skipSpaces {chars : List Char} (opens : Opens chars) (rest : List Char) :
    skipSpaces (chars ++ rest) = chars ++ rest := by
  obtain ⟨first, tail, rfl, solid, _, _⟩ := opens
  simp [Json.skipSpaces, solid]

theorem Opens.ne_nil {chars : List Char} (opens : Opens chars) : chars ≠ [] := by
  obtain ⟨first, tail, rfl, _⟩ := opens
  exact List.cons_ne_nil _ _

/-- The first character of a number. -/
theorem first_of_readNumber? {chars after : List Char} {document : Json}
    (read : readNumber? chars = some (document, after)) :
    ∃ first tail, chars = first :: tail ∧ isNumeral first = true := by
  cases chars with
  | nil => simp [readNumber?, readMagnitude?, readDigits?] at read
  | cons first tail =>
      refine ⟨first, tail, rfl, ?_⟩
      by_cases minus : first = '-'
      · rw [minus]
        decide
      · rw [readNumber?_of_ne tail minus] at read
        have front : ∃ digits rest, readDigits? (first :: tail) = some (digits, rest) := by
          cases NumberShape.of_readMagnitude? read with
          | fraction front => exact ⟨_, _, front⟩
          | power front => exact ⟨_, _, front⟩
          | whole front => exact ⟨_, _, front⟩
        obtain ⟨digits, rest, front⟩ := front
        by_cases digit : isDigit first = true
        · simp [isNumeral, digit]
        · simp [readDigits?, digit] at front

theorem isSpace_of_isNumeral {char : Char} (numeral : isNumeral char = true) :
    isSpace char = false := by
  cases space : isSpace char with
  | false => rfl
  | true =>
      simp only [isSpace, Bool.or_eq_true, beq_iff_eq] at space
      rcases space with ((rfl | rfl) | rfl) | rfl <;> revert numeral <;> decide

theorem opens_of_readNumber? {chars after : List Char} {document : Json}
    (read : readNumber? chars = some (document, after)) : Opens chars := by
  obtain ⟨first, tail, rfl, numeral⟩ := first_of_readNumber? read
  refine ⟨first, tail, rfl, isSpace_of_isNumeral numeral, ?_, ?_⟩
  · rintro rfl
    revert numeral
    decide
  · rintro rfl
    revert numeral
    decide

/-- What does not start with an opening bracket is no array and no object. -/
theorem readValue_eq_readScalar? (limit : Nat) {first : Char} (tail : List Char)
    (notArray : first ≠ '[') (notObject : first ≠ '\x7b') :
    readValue limit (first :: tail) = readScalar? (first :: tail) := by
  cases limit with
  | zero => rfl
  | succ limit =>
      rw [readValue]
      · intro _ same
        exact notArray (List.cons.inj same).1
      · intro _ same
        exact notObject (List.cons.inj same).1

theorem ne_of_isNumeral {first char : Char} (numeral : isNumeral first = true)
    (other : isNumeral char = false) : first ≠ char := by
  rintro rfl
  rw [other] at numeral
  cases numeral

/-- What starts with a character of a number is read as a number. -/
theorem readValue_eq_readNumber? (limit : Nat) {first : Char} (tail : List Char)
    (numeral : isNumeral first = true) :
    readValue limit (first :: tail) = readNumber? (first :: tail) := by
  rw [readValue_eq_readScalar? limit tail (ne_of_isNumeral numeral (by decide))
    (ne_of_isNumeral numeral (by decide)), readScalar?]
  · intro _ same
    exact ne_of_isNumeral numeral (by decide) (List.cons.inj same).1
  · intro _ same
    exact ne_of_isNumeral numeral (by decide) (List.cons.inj same).1
  · intro _ same
    exact ne_of_isNumeral numeral (by decide) (List.cons.inj same).1
  · intro _ same
    exact ne_of_isNumeral numeral (by decide) (List.cons.inj same).1

/-- What reads as a number reads as that document. -/
theorem readValue_of_readNumber? (limit : Nat) {chars after : List Char} {document : Json}
    (read : readNumber? chars = some (document, after)) :
    readValue limit chars = some (document, after) := by
  obtain ⟨first, tail, rfl, numeral⟩ := first_of_readNumber? read
  rw [readValue_eq_readNumber? limit tail numeral, read]

section Entries

variable {α : Type}

/-- Entries separated by commas. -/
def separated (put : α → List Char) : List α → List Char
  | [] => []
  | [item] => put item
  | item :: next :: rest => put item ++ ',' :: separated put (next :: rest)

theorem length_le_separated {put : α → List Char} {items : List α}
    (opens : ∀ item ∈ items, Opens (put item)) : items.length ≤ (separated put items).length := by
  induction items with
  | nil => exact Nat.zero_le _
  | cons item rest ih =>
      have positive := List.length_pos_iff.2 (opens item List.mem_cons_self).ne_nil
      have later := ih fun item inside => opens item (List.mem_cons_of_mem _ inside)
      cases rest with
      | nil => exact positive
      | cons next rest =>
          simp only [separated, List.length_append, List.length_cons] at later ⊢
          omega

/-- A closing bracket of an array or an object. -/
def Closes (close : Char) : Prop :=
  close = ']' ∨ close = '}'

theorem Closes.delimited {close : Char} (closes : Closes close) (rest : List Char) :
    Delimited (close :: rest) := by
  intro char first
  cases first
  exact .inr closes

theorem delimited_comma (rest : List Char) : Delimited (',' :: rest) := by
  intro char first
  cases first
  exact .inl rfl

theorem Closes.isSpace {close : Char} (closes : Closes close) : isSpace close = false := by
  rcases closes with rfl | rfl <;> decide

theorem Closes.ne_comma {close : Char} (closes : Closes close) : close ≠ ',' := by
  rcases closes with rfl | rfl <;> decide

variable {entry : List Char → Option (α × List Char)} {put : α → List Char} {valid : α → Prop}
  [DecidablePred valid] {close : Char}

/-- If every entry reads back as long as it is valid, so does a row of them. -/
theorem readEntries_separated (closes : Closes close) {items : List α} (nonempty : items ≠ [])
    (opens : ∀ item ∈ items, Opens (put item))
    (reads : ∀ item ∈ items, ∀ rest, Delimited rest →
      entry (put item ++ rest) = if valid item then some (item, rest) else none)
    {count : Nat} (enough : items.length ≤ count) (rest : List Char) :
    readEntries entry close count (separated put items ++ close :: rest) =
      if ∀ item ∈ items, valid item then some (items, rest) else none := by
  induction items generalizing count with
  | nil => contradiction
  | cons item others ih =>
      cases count with
      | zero => simp at enough
      | succ count =>
          have opensItem := opens item List.mem_cons_self
          have readsItem := reads item List.mem_cons_self
          cases others with
          | nil =>
              simp only [readEntries, separated]
              rw [opensItem.skipSpaces, readsItem _ (closes.delimited rest)]
              by_cases accepted : valid item
              · simp [accepted, skipSpaces, closes.isSpace, closes.ne_comma]
              · simp [accepted]
          | cons next others =>
              have later := ih (List.cons_ne_nil _ _)
                (fun item inside => opens item (List.mem_cons_of_mem _ inside))
                (fun item inside => reads item (List.mem_cons_of_mem _ inside))
                (Nat.le_of_succ_le_succ enough)
              simp only [readEntries, separated, List.append_assoc, List.cons_append]
              rw [opensItem.skipSpaces, readsItem _ (delimited_comma _)]
              by_cases accepted : valid item
              · have comma : isSpace ',' = false := by decide
                simp only [accepted, if_true, skipSpaces, List.dropWhile_cons, comma]
                simp only [Bool.false_eq_true, if_false, if_true, later]
                by_cases others : ∀ item ∈ next :: others, valid item
                · rw [if_pos others, if_pos (List.forall_mem_cons.2 ⟨accepted, others⟩)]
                  rfl
                · rw [if_neg others, if_neg fun all => others (List.forall_mem_cons.1 all).2]
                  rfl
              · simp [accepted]

/-- The entries between two brackets read back if all of them are valid. -/
theorem readBracket_separated (closes : Closes close) {items : List α}
    (opens : ∀ item ∈ items, Opens (put item))
    (reads : ∀ item ∈ items, ∀ rest, Delimited rest →
      entry (put item ++ rest) = if valid item then some (item, rest) else none)
    (rest : List Char) :
    readBracket entry close (separated put items ++ close :: rest) =
      if ∀ item ∈ items, valid item then some (items, rest) else none := by
  cases items with
  | nil => simp [readBracket, separated, skipSpaces, closes.isSpace]
  | cons item others =>
      have opensAll : Opens (separated put (item :: others)) := by
        obtain ⟨first, tail, start, solid⟩ := opens item List.mem_cons_self
        cases others with
        | nil => exact ⟨first, tail, start, solid⟩
        | cons next others => exact ⟨first, _, by rw [separated, start, List.cons_append], solid⟩
      have enough : (item :: others).length ≤
          (separated put (item :: others) ++ close :: rest).length := by
        have := length_le_separated opens
        rw [List.length_append]
        omega
      have read := readEntries_separated closes (List.cons_ne_nil _ _) opens reads enough rest
      have skipped := opensAll.skipSpaces (close :: rest)
      obtain ⟨first, tail, start, _, notArray, notObject⟩ := opensAll
      have notClose : first ≠ close := by
        rcases closes with rfl | rfl
        · exact notArray
        · exact notObject
      rw [start] at skipped read ⊢
      simp only [readBracket]
      rw [skipped]
      simp only [List.cons_append, notClose, if_false]
      exact read

end Entries

theorem writeItems_eq_separated (items : List Json) : writeItems items = separated write items := by
  induction items with
  | nil => rfl
  | cons item rest ih =>
      cases rest with
      | nil => rfl
      | cons next rest =>
          rw [writeItems, separated, ih]
          exact List.cons_ne_nil _ _

/-- A field in its written form. -/
def writeField (field : String × Json) : List Char :=
  writeString field.1 ++ ':' :: field.2.write

theorem writeFields_eq_separated (fields : List (String × Json)) :
    writeFields fields = separated writeField fields := by
  induction fields with
  | nil => rfl
  | cons field rest ih =>
      cases rest with
      | nil => rfl
      | cons next rest =>
          rw [writeFields, separated, ih, writeField]
          exact List.cons_ne_nil _ _

theorem depthItems_le_iff {items : List Json} {limit : Nat} :
    depthItems items ≤ limit ↔ ∀ item ∈ items, item.depth ≤ limit := by
  induction items with
  | nil => simp [depthItems]
  | cons item rest ih => rw [depthItems, Nat.max_le, ih, List.forall_mem_cons]

theorem depthFields_le_iff {fields : List (String × Json)} {limit : Nat} :
    depthFields fields ≤ limit ↔ ∀ field ∈ fields, field.2.depth ≤ limit := by
  induction fields with
  | nil => simp [depthFields]
  | cons field rest ih => rw [depthFields, Nat.max_le, ih, List.forall_mem_cons]

/-! ## Values -/

/-- A field reads back if its value does. -/
theorem readField_writeField {value : List Char → Option (Json × List Char)} {limit : Nat}
    {field : String × Json} (opens : Opens field.2.write)
    (reads : ∀ rest, Delimited rest →
      value (field.2.write ++ rest) = if field.2.depth ≤ limit then some (field.2, rest) else none)
    {rest : List Char} (delimited : Delimited rest) :
    readField value (writeField field ++ rest) =
      if field.2.depth ≤ limit then some (field, rest) else none := by
  have colon : skipSpaces (':' :: (field.2.write ++ rest)) = ':' :: (field.2.write ++ rest) := by
    have : isSpace ':' = false := by decide
    simp [skipSpaces, this]
  simp only [writeField, writeString, List.cons_append, List.append_assoc, List.nil_append,
    readField]
  rw [readString?_written]
  simp only
  rw [colon]
  simp only
  rw [opens.skipSpaces, reads rest delimited]
  split <;> rfl

/-- The float in its written form, read as a number, is the float again. -/
def ReadsBack (value : Float) : Prop :=
  readNumber? (writeFloat value) = some (.float value, [])

/-- A written value starts with a character of a value. -/
theorem opens_write {document : Json} (writable : document.Writable)
    (floats : ∀ value ∈ document.floats, ReadsBack value) : Opens document.write := by
  cases writable with
  | null => exact ⟨'n', _, rfl, by decide, by decide, by decide⟩
  | boolean value =>
      cases value with
      | false => exact ⟨'f', _, rfl, by decide, by decide, by decide⟩
      | true => exact ⟨'t', _, rfl, by decide, by decide, by decide⟩
  | integer lower upper => exact opens_of_readNumber? (readNumber?_intText lower upper)
  | float finite => exact opens_of_readNumber? (floats _ List.mem_cons_self)
  | string value => exact ⟨'"', _, rfl, by decide, by decide, by decide⟩
  | array each => exact ⟨'[', _, rfl, by decide, by decide, by decide⟩
  | object distinct each => exact ⟨'\x7b', _, rfl, by decide, by decide, by decide⟩

/-- What starts with an opening bracket is no scalar. -/
theorem readScalar?_bracket {first : Char} (bracket : first = '[' ∨ first = '\x7b')
    (tail : List Char) : readScalar? (first :: tail) = none := by
  rcases bracket with rfl | rfl <;>
    simp [readScalar?, readNumber?, readMagnitude?, readDigits?, isDigit]

/-- Whether a value reads back from its place in a text exactly if it nests no deeper than the
limit. -/
def ReadsWithin (document : Json) : Prop :=
  ∀ (limit : Nat) {rest : List Char}, Delimited rest →
    readValue limit (document.write ++ rest) =
      if document.depth ≤ limit then some (document, rest) else none

theorem readsWithin_array {items : List Json} (opens : ∀ item ∈ items, Opens item.write)
    (reads : ∀ item ∈ items, item.ReadsWithin) : (Json.array items).ReadsWithin := by
  intro limit rest delimited
  simp only [write, List.cons_append, List.append_assoc, List.nil_append]
  cases limit with
  | zero =>
      rw [readValue, readScalar?_bracket (.inl rfl), if_neg]
      simp [depth]
  | succ limit =>
      have entries : ∀ item ∈ items, ∀ rest, Delimited rest →
          readValue limit (item.write ++ rest) =
            if item.depth ≤ limit then some (item, rest) else none := by
        intro item inside rest delimited
        exact reads item inside limit delimited
      rw [readValue, writeItems_eq_separated, readBracket_separated (.inl rfl) opens entries, depth]
      by_cases shallow : ∀ item ∈ items, item.depth ≤ limit
      · rw [if_pos shallow, if_pos (Nat.succ_le_succ (depthItems_le_iff.2 shallow))]
        rfl
      · rw [if_neg shallow, if_neg]
        · rfl
        · intro deep
          exact shallow (depthItems_le_iff.1 (Nat.le_of_succ_le_succ deep))

theorem readsWithin_object {fields : List (String × Json)}
    (opens : ∀ field ∈ fields, Opens field.2.write)
    (reads : ∀ field ∈ fields, field.2.ReadsWithin) : (Json.object fields).ReadsWithin := by
  intro limit rest delimited
  simp only [write, List.cons_append, List.append_assoc, List.nil_append]
  cases limit with
  | zero =>
      rw [readValue, readScalar?_bracket (.inr rfl), if_neg]
      simp [depth]
  | succ limit =>
      have opensField : ∀ field ∈ fields, Opens (writeField field) := by
        intro field inside
        exact ⟨'"', _, rfl, by decide, by decide, by decide⟩
      have entries : ∀ field ∈ fields, ∀ rest, Delimited rest →
          readField (readValue limit) (writeField field ++ rest) =
            if field.2.depth ≤ limit then some (field, rest) else none := by
        intro field inside rest delimited
        exact readField_writeField (opens field inside)
          (fun rest delimited => reads field inside limit delimited) delimited
      rw [readValue, writeFields_eq_separated, readBracket_separated (.inr rfl) opensField entries,
        depth]
      by_cases shallow : ∀ field ∈ fields, field.2.depth ≤ limit
      · rw [if_pos shallow, if_pos (Nat.succ_le_succ (depthFields_le_iff.2 shallow))]
        rfl
      · rw [if_neg shallow, if_neg]
        · rfl
        · intro deep
          exact shallow (depthFields_le_iff.1 (Nat.le_of_succ_le_succ deep))

/-- A writable value inside a text reads back exactly if it nests no deeper than the limit. -/
theorem readsWithin_of_writable {document : Json} (writable : document.Writable)
    (floats : ∀ value ∈ document.floats, ReadsBack value) : document.ReadsWithin := by
  induction writable with
  | null =>
      intro limit rest delimited
      simp only [depth, Nat.zero_le, if_true]
      exact readValue_eq_readScalar? limit _ (by decide) (by decide)
  | boolean value =>
      intro limit rest delimited
      simp only [depth, Nat.zero_le, if_true]
      cases value with
      | false => exact readValue_eq_readScalar? limit _ (by decide) (by decide)
      | true => exact readValue_eq_readScalar? limit _ (by decide) (by decide)
  | integer lower upper =>
      intro limit rest delimited
      simp only [depth, Nat.zero_le, if_true]
      exact readValue_of_readNumber? limit
        (readNumber?_append (readNumber?_intText lower upper) delimited)
  | float finite =>
      intro limit rest delimited
      simp only [depth, Nat.zero_le, if_true]
      exact readValue_of_readNumber? limit
        (readNumber?_append (floats _ List.mem_cons_self) delimited)
  | string value =>
      intro limit rest delimited
      simp only [depth, Nat.zero_le, if_true]
      simp only [write, writeString, List.cons_append, List.append_assoc, List.nil_append]
      rw [readValue_eq_readScalar? limit _ (by decide) (by decide), readScalar?,
        readString?_written]
      rfl
  | @array items each ih =>
      have itemFloats : ∀ item ∈ items, ∀ value ∈ item.floats, ReadsBack value := by
        intro item inside value held
        apply floats
        rw [Json.floats, floatsItems_eq_flatMap]
        exact List.mem_flatMap.2 ⟨item, inside, held⟩
      apply readsWithin_array
      · intro item inside
        exact opens_write (each item inside) (itemFloats item inside)
      · intro item inside
        exact ih item inside (itemFloats item inside)
  | @object fields distinct each ih =>
      have fieldFloats : ∀ field ∈ fields, ∀ value ∈ field.2.floats, ReadsBack value := by
        intro field inside value held
        apply floats
        rw [Json.floats, floatsFields_eq_flatMap]
        exact List.mem_flatMap.2 ⟨field, inside, held⟩
      apply readsWithin_object
      · intro field inside
        exact opens_write (each field inside) (fieldFloats field inside)
      · intro field inside
        exact ih field inside (fieldFloats field inside)

/-- The text of a writable document reads back exactly if the document nests no deeper than the
reader allows. -/
theorem read?_render {document : Json} (writable : document.Writable)
    (floats : ∀ value ∈ document.floats, ReadsBack value) :
    read? document.render = if document.depth ≤ depthLimit then some document else none := by
  have skipped := (opens_write writable floats).skipSpaces []
  have read := readsWithin_of_writable writable floats depthLimit Delimited.nil
  rw [List.append_nil] at skipped read
  rw [read?, render, String.toList_ofList, readChars?, skipped, read]
  by_cases shallow : document.depth ≤ depthLimit
  · rw [if_pos shallow, if_pos shallow]
    rfl
  · rw [if_neg shallow, if_neg shallow]

theorem skipSpaces_of_isNumeral {chars : List Char}
    (numerals : ∀ char ∈ chars, isNumeral char = true) : skipSpaces chars = chars := by
  cases chars with
  | nil => rfl
  | cons first tail =>
      simp [skipSpaces, isSpace_of_isNumeral (numerals first List.mem_cons_self)]

/-- A finite float whose text reads back as a document also reads back as a number. -/
theorem readsBack_of_read? {value : Float} (finite : isFinite value = true)
    (read : read? (Json.float value).render = some (.float value)) : ReadsBack value := by
  have numerals := isNumeral_writeFloat finite
  rw [read?, render, String.toList_ofList, write, readChars?,
    skipSpaces_of_isNumeral numerals] at read
  split at read
  · contradiction
  · rename_i document rest found
    split at read
    · rename_i ended
      cases read
      have number : readNumber? (writeFloat value) = some (.float value, rest) := by
        cases shape : writeFloat value with
        | nil =>
            rw [shape] at found
            simp [readValue, depthLimit, readScalar?] at found
            exact found
        | cons first tail =>
            rw [shape] at found numerals
            rw [← readValue_eq_readNumber? depthLimit tail (numerals first List.mem_cons_self),
              found]
      have none : rest = [] := by
        have suffix := suffix_of_readNumber? number
        rw [skipSpaces_of_isNumeral fun char inside => numerals char (suffix.mem inside)] at ended
        exact List.isEmpty_iff.1 ended
      rw [ReadsBack, number, none]
    · contradiction

/-! ## What is read can be written -/

theorem forall_of_readEntries {α : Type} {property : α → Prop}
    {entry : List Char → Option (α × List Char)} {close : Char}
    (each : ∀ {chars value rest}, entry chars = some (value, rest) → property value)
    {count : Nat} {chars rest : List Char} {values : List α}
    (read : readEntries entry close count chars = some (values, rest)) :
    ∀ value ∈ values, property value := by
  induction count generalizing chars rest values with
  | zero => cases read
  | succ count ih =>
      simp only [readEntries] at read
      split at read
      · contradiction
      · rename_i first behind found
        split at read
        · contradiction
        · split at read
          · obtain ⟨⟨others, tail⟩, later, same⟩ := Option.map_eq_some_iff.1 read
            simp only [Prod.mk.injEq] at same
            rw [← same.1, List.forall_mem_cons]
            exact ⟨each found, ih later⟩
          · split at read
            · simp only [Option.some.injEq, Prod.mk.injEq] at read
              rw [← read.1, List.forall_mem_singleton]
              exact each found
            · contradiction

theorem forall_of_readBracket {α : Type} {property : α → Prop}
    {entry : List Char → Option (α × List Char)} {close : Char}
    (each : ∀ {chars value rest}, entry chars = some (value, rest) → property value)
    {chars rest : List Char} {values : List α}
    (read : readBracket entry close chars = some (values, rest)) :
    ∀ value ∈ values, property value := by
  simp only [readBracket] at read
  split at read
  · contradiction
  · split at read
    · simp only [Option.some.injEq, Prod.mk.injEq] at read
      rw [← read.1]
      intro value inside
      cases inside
    · exact forall_of_readEntries each read

theorem value_of_readField {property : Json → Prop}
    {value : List Char → Option (Json × List Char)}
    (each : ∀ {chars item rest}, value chars = some (item, rest) → property item)
    {chars rest : List Char} {field : String × Json}
    (read : readField value chars = some (field, rest)) : property field.2 := by
  unfold readField at read
  split at read
  · split at read
    · contradiction
    · split at read
      · obtain ⟨⟨item, tail⟩, found, same⟩ := Option.map_eq_some_iff.1 read
        cases same
        exact each found
      · contradiction
  · contradiction

theorem writable_of_readScalar? {chars rest : List Char} {document : Json}
    (read : readScalar? chars = some (document, rest)) : document.lastWins.Writable := by
  unfold readScalar? at read
  split at read
  · cases read
    exact .null
  · cases read
    exact .boolean true
  · cases read
    exact .boolean false
  · obtain ⟨⟨text, tail⟩, found, same⟩ := Option.map_eq_some_iff.1 read
    cases same
    exact .string text
  · have writable := writable_of_readNumber? read
    rw [writable.lastWins_eq]
    exact writable

/-- What is read can be written once every name counts with its last value. -/
theorem writable_of_readValue {limit : Nat} {chars rest : List Char} {document : Json}
    (read : readValue limit chars = some (document, rest)) : document.lastWins.Writable := by
  induction limit generalizing chars rest document with
  | zero => exact writable_of_readScalar? read
  | succ limit ih =>
      unfold readValue at read
      split at read
      · obtain ⟨⟨items, tail⟩, found, same⟩ := Option.map_eq_some_iff.1 read
        cases same
        have each := forall_of_readBracket ih found
        rw [lastWins, lastWinsItems_eq_map]
        apply Writable.array
        intro item inside
        obtain ⟨original, member, rfl⟩ := List.mem_map.1 inside
        exact each original member
      · obtain ⟨⟨fields, tail⟩, found, same⟩ := Option.map_eq_some_iff.1 read
        cases same
        have each : ∀ field ∈ fields, field.2.lastWins.Writable := by
          refine forall_of_readBracket ?_ found
          intro chars field rest read
          exact value_of_readField (fun {_ _ _} read => ih read) read
        rw [lastWins]
        apply Writable.object (nodup_lastWinsFields fields)
        intro field inside
        obtain ⟨original, member, rfl⟩ := mem_of_mem_lastWinsFields inside
        exact each original member
      · exact writable_of_readScalar? read

/-- What a text holds can be written once every name counts with its last value. -/
theorem writable_of_read? {text : String} {document : Json} (read : read? text = some document) :
    document.lastWins.Writable := by
  unfold read? readChars? at read
  split at read
  · contradiction
  · rename_i found
    split at read
    · cases read
      exact writable_of_readValue found
    · contradiction

end TableFlow.Json
