import TableFlow.Proofs.Json.RoundTrip

/-!
# How deep a text nests

The nesting of a text is counted from its brackets and braces, without those that stand within
strings. Scanning the text of a value from any depth comes back to that depth, and on the way
reaches the depth of the value on top of it.

Main statement: `nesting_render`, which says that the text of a document nests as deep as the
document.
-/

namespace TableFlow.Json

/-- Where the scan of a text stands: outside of strings, within one, or behind a backslash
within one. -/
inductive Place where
  | outside
  | quoted
  | escaped

/-- The greatest depth that a text reaches from a place and a depth on. -/
def nestingFrom : Place → Nat → List Char → Nat
  | _, depth, [] => depth
  | .outside, depth, char :: rest =>
      if char = '"' then nestingFrom .quoted depth rest
      else if char = '[' ∨ char = '\x7b' then nestingFrom .outside (depth + 1) rest
      -- The depth drops here only, so it is enough to compare it here and at the end.
      else if char = ']' ∨ char = '\x7d' then max depth (nestingFrom .outside (depth - 1) rest)
      else nestingFrom .outside depth rest
  | .quoted, depth, char :: rest =>
      if char = '"' then nestingFrom .outside depth rest
      else if char = '\\' then nestingFrom .escaped depth rest
      else nestingFrom .quoted depth rest
  | .escaped, depth, _ :: rest => nestingFrom .quoted depth rest

/-- How deep arrays and objects nest in a text. -/
def nesting (text : String) : Nat :=
  nestingFrom .outside 0 text.toList

theorem le_nestingFrom (place : Place) (depth : Nat) (chars : List Char) :
    depth ≤ nestingFrom place depth chars := by
  induction chars generalizing place depth with
  | nil => cases place <;> exact Nat.le_refl depth
  | cons char rest ih =>
      cases place with
      | outside =>
          rw [nestingFrom]
          split
          · exact ih .quoted depth
          · split
            · exact Nat.le_of_succ_le (ih .outside (depth + 1))
            · split
              · exact Nat.le_max_left _ _
              · exact ih .outside depth
      | quoted =>
          rw [nestingFrom]
          split
          · exact ih .outside depth
          · split
            · exact ih .escaped depth
            · exact ih .quoted depth
      | escaped => exact ih .quoted depth

theorem nestingFrom_numeral (depth : Nat) {chars : List Char}
    (numerals : ∀ char ∈ chars, isNumeral char = true) (rest : List Char) :
    nestingFrom .outside depth (chars ++ rest) = nestingFrom .outside depth rest := by
  induction chars with
  | nil => rfl
  | cons char tail ih =>
      obtain ⟨numeral, others⟩ := List.forall_mem_cons.1 numerals
      have other : ∀ mark, isNumeral mark = false → char ≠ mark :=
        fun _ mark => ne_of_isNumeral numeral mark
      rw [List.cons_append, nestingFrom, if_neg (other _ (by decide)),
        if_neg (not_or.2 ⟨other _ (by decide), other _ (by decide)⟩),
        if_neg (not_or.2 ⟨other _ (by decide), other _ (by decide)⟩), ih others]

theorem digitChar_ne :
    ∀ digit < 16, Nat.digitChar digit ≠ '"' ∧ Nat.digitChar digit ≠ '\\' := by
  decide

/-- A written character leaves the scan within the string. -/
theorem nestingFrom_writeChar (depth : Nat) (char : Char) (rest : List Char) :
    nestingFrom .quoted depth (writeChar char ++ rest) = nestingFrom .quoted depth rest := by
  unfold writeChar
  split
  · simp [nestingFrom]
  · simp [nestingFrom]
  · simp [nestingFrom]
  · simp [nestingFrom]
  · simp [nestingFrom]
  · simp [nestingFrom]
  · simp [nestingFrom]
  · rename_i notQuote notBackslash _ _ _ _ _
    split
    · rename_i control
      have below : char.toNat < 32 := control
      obtain ⟨highQuote, highBackslash⟩ := digitChar_ne (char.toNat / 16) (by omega)
      obtain ⟨lowQuote, lowBackslash⟩ := digitChar_ne (char.toNat % 16) (by omega)
      simp [nestingFrom, highQuote, highBackslash, lowQuote, lowBackslash]
    · simp only [List.cons_append, List.nil_append, nestingFrom]
      rw [if_neg notQuote, if_neg notBackslash]

theorem nestingFrom_writeString (depth : Nat) (text : String) (rest : List Char) :
    nestingFrom .outside depth (writeString text ++ rest) = nestingFrom .outside depth rest := by
  have inside : ∀ chars : List Char,
      nestingFrom .quoted depth (chars.flatMap writeChar ++ '"' :: rest) =
        nestingFrom .outside depth rest := by
    intro chars
    induction chars with
    | nil => simp [nestingFrom]
    | cons char chars ih =>
        rw [List.flatMap_cons, List.append_assoc, nestingFrom_writeChar, ih]
  simp only [writeString, List.cons_append, List.append_assoc, List.nil_append, nestingFrom,
    if_true, inside]

/-- A text that reaches a depth on top of the one at which it starts, and comes back to it. -/
def Reaches (deep : Nat) (chars : List Char) : Prop :=
  ∀ (depth limit : Nat) (rest : List Char), nestingFrom .outside depth (chars ++ rest) ≤ limit ↔
    depth + deep ≤ limit ∧ nestingFrom .outside depth rest ≤ limit

theorem reaches_zero {chars : List Char}
    (flat : ∀ depth rest,
      nestingFrom .outside depth (chars ++ rest) = nestingFrom .outside depth rest) :
    Reaches 0 chars := by
  intro depth limit rest
  rw [flat]
  constructor
  · intro shallow
    exact ⟨Nat.le_trans (le_nestingFrom .outside depth rest) shallow, shallow⟩
  · exact And.right

theorem nestingFrom_separated {α : Type} {put : α → List Char} {deep : α → Nat} {items : List α}
    (reaches : ∀ item ∈ items, Reaches (deep item) (put item)) (depth limit : Nat)
    (rest : List Char) :
    nestingFrom .outside depth (separated put items ++ rest) ≤ limit ↔
      (∀ item ∈ items, depth + deep item ≤ limit) ∧ nestingFrom .outside depth rest ≤ limit := by
  induction items with
  | nil => simp [separated]
  | cons item others ih =>
      obtain ⟨first, later⟩ := List.forall_mem_cons.1 reaches
      rw [List.forall_mem_cons]
      cases others with
      | nil => simp [separated, first depth limit rest]
      | cons next others =>
          have comma :
              nestingFrom .outside depth (',' :: (separated put (next :: others) ++ rest)) =
                nestingFrom .outside depth (separated put (next :: others) ++ rest) := by
            simp [nestingFrom]
          rw [separated, List.append_assoc, List.cons_append, first, comma, ih later, and_assoc]

/-- Entries between two brackets reach one level more than the deepest of them. -/
theorem reaches_bracket {α : Type} {put : α → List Char} {deep : α → Nat} {items : List α}
    (reaches : ∀ item ∈ items, Reaches (deep item) (put item)) {opening closing : Char}
    (opens : opening = '[' ∨ opening = '\x7b') (closes : Closes closing) {deepest : Nat}
    (greatest : ∀ limit, deepest ≤ limit ↔ ∀ item ∈ items, deep item ≤ limit) :
    Reaches (deepest + 1) (opening :: separated put items ++ [closing]) := by
  intro depth limit rest
  have opened : nestingFrom .outside depth
        (opening :: (separated put items ++ closing :: rest)) =
      nestingFrom .outside (depth + 1) (separated put items ++ closing :: rest) := by
    rcases opens with rfl | rfl <;> simp [nestingFrom]
  have closed : nestingFrom .outside (depth + 1) (closing :: rest) =
      max (depth + 1) (nestingFrom .outside depth rest) := by
    rcases closes with rfl | rfl <;> simp [nestingFrom]
  simp only [List.cons_append, List.append_assoc, List.nil_append]
  rw [opened, nestingFrom_separated reaches, closed, Nat.max_le]
  constructor
  · rintro ⟨each, above, behind⟩
    have shallow := (greatest (limit - (depth + 1))).2 fun item inside => by
      have := each item inside
      omega
    exact ⟨by omega, behind⟩
  · rintro ⟨shallow, behind⟩
    refine ⟨?_, by omega, behind⟩
    intro item inside
    have := (greatest deepest).1 (Nat.le_refl _) item inside
    omega

theorem reaches_write {document : Json} (writable : document.Writable) :
    Reaches document.depth document.write := by
  induction writable with
  | null => exact reaches_zero fun _ _ => by simp [write, nestingFrom]
  | boolean value => exact reaches_zero fun _ _ => by cases value <;> simp [write, nestingFrom]
  | @integer value lower upper =>
      exact reaches_zero fun depth => nestingFrom_numeral depth (isNumeral_intText value)
  | float finite =>
      exact reaches_zero fun depth => nestingFrom_numeral depth (isNumeral_writeFloat finite)
  | string value => exact reaches_zero fun depth => nestingFrom_writeString depth value
  | @array items each ih =>
      rw [write, writeItems_eq_separated, depth]
      exact reaches_bracket ih (.inl rfl) (.inl rfl) fun _ => depthItems_le_iff
  | @object fields distinct each ih =>
      have reaches : ∀ field ∈ fields, Reaches field.2.depth (writeField field) := by
        intro field inside depth limit rest
        have colon : nestingFrom .outside depth (':' :: (field.2.write ++ rest)) =
            nestingFrom .outside depth (field.2.write ++ rest) := by
          simp [nestingFrom]
        rw [writeField, List.append_assoc, nestingFrom_writeString, List.cons_append, colon,
          ih field inside]
      rw [write, writeFields_eq_separated, depth]
      exact reaches_bracket reaches (.inr rfl) (.inr rfl) fun _ => depthFields_le_iff

/-- The text of a document nests as deep as the document. -/
theorem nesting_render {document : Json} (writable : document.Writable) :
    nesting document.render = document.depth := by
  have reaches : ∀ limit, nesting document.render ≤ limit ↔ document.depth ≤ limit := by
    intro limit
    have whole := reaches_write writable 0 limit []
    simp only [List.append_nil, Nat.zero_add, nestingFrom, Nat.zero_le, and_true] at whole
    rw [nesting, render, String.toList_ofList, whole]
  exact Nat.le_antisymm ((reaches _).2 (Nat.le_refl _)) ((reaches _).1 (Nat.le_refl _))

end TableFlow.Json
