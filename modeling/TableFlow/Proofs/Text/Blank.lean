import Mathlib.Data.List.Basic
import Mathlib.Data.List.TakeWhile
import TableFlow.Proofs.Number.Digits

/-!
# Blanks around a text

Trimming takes the blanks off both ends of a text and nothing else: a text is its trimmed form with
some blanks before and behind it, and a text that starts and ends visibly comes back from between
any blanks.
-/

namespace TableFlow.Text

open TableFlow.Number

theorem dropWhile_isBlank_eq_self {chars : List Char}
    (visible : ∀ char ∈ chars.head?, isBlank char = false) : chars.dropWhile isBlank = chars :=
  dropWhile_append_of_head [] visible

/-- A text that starts and ends visibly is all that trimming leaves of it and the blanks around
it. -/
theorem trimChars_surrounded {before text after : List Char}
    (blankBefore : ∀ char ∈ before, isBlank char = true)
    (blankAfter : ∀ char ∈ after, isBlank char = true)
    (starts : ∀ char ∈ text.head?, isBlank char = false)
    (ends : ∀ char ∈ text.getLast?, isBlank char = false) :
    trimChars (before ++ text ++ after) = text := by
  have front : trimStart (before ++ text ++ after) = text ++ (if text = [] then [] else after) := by
    rw [trimStart, List.append_assoc, List.dropWhile_append_of_pos blankBefore]
    cases text with
    | nil => exact List.dropWhile_eq_nil_iff.2 blankAfter
    | cons first others => exact dropWhile_isBlank_eq_self starts
  have behind : ∀ char ∈ (if text = [] then [] else after).reverse, isBlank char = true := by
    intro char inside
    split at inside
    · cases inside
    · exact blankAfter char (List.mem_reverse.1 inside)
  rw [trimChars, front, trimEnd, List.reverse_append, List.dropWhile_append_of_pos behind,
    dropWhile_isBlank_eq_self, List.reverse_reverse]
  rwa [List.head?_reverse]

theorem trimChars_eq_self {chars : List Char} (starts : ∀ char ∈ chars.head?, isBlank char = false)
    (ends : ∀ char ∈ chars.getLast?, isBlank char = false) : trimChars chars = chars := by
  simpa using trimChars_surrounded (List.forall_mem_nil _) (List.forall_mem_nil _) starts ends

/-- A text is its trimmed form with blanks around it. -/
theorem exists_surrounding (chars : List Char) :
    ∃ before after, chars = before ++ trimChars chars ++ after ∧
      (∀ char ∈ before, isBlank char = true) ∧ ∀ char ∈ after, isBlank char = true := by
  have blank : ∀ row : List Char, ∀ char ∈ row.takeWhile isBlank, isBlank char = true :=
    fun _ _ inside => List.mem_takeWhile_imp inside
  refine ⟨chars.takeWhile isBlank, ((trimStart chars).reverse.takeWhile isBlank).reverse, ?_,
    blank chars, fun char inside => blank _ char (List.mem_reverse.1 inside)⟩
  rw [trimChars, trimEnd, List.append_assoc, ← List.reverse_append,
    List.takeWhile_append_dropWhile, List.reverse_reverse, trimStart,
    List.takeWhile_append_dropWhile]

/-- A text that neither starts nor ends with a blank. -/
structure VisibleEnds (text : List Char) : Prop where
  nonempty : text ≠ []
  starts : ∀ char ∈ text.head?, isBlank char = false
  ends : ∀ char ∈ text.getLast?, isBlank char = false

theorem visibleEnds_of_all {text : List Char} (nonempty : text ≠ [])
    (visible : ∀ char ∈ text, isBlank char = false) : VisibleEnds text :=
  ⟨nonempty, fun char first => visible char (List.mem_of_mem_head? first),
    fun char last => visible char (List.mem_of_mem_getLast? last)⟩

theorem visibleEnds_intText (value : Int) : VisibleEnds (intText value).toList := by
  cases value with
  | ofNat magnitude =>
      rw [intText, String.toList_ofList]
      exact visibleEnds_of_all Nat.toDigits_ne_nil fun char inside =>
        not_isBlank_of_isDigit ((isDecimal_toDigits magnitude).digits char inside)
  | negSucc magnitude =>
      rw [intText, String.toList_ofList]
      refine visibleEnds_of_all (List.cons_ne_nil _ _) fun char inside => ?_
      rcases List.mem_cons.1 inside with rfl | digit
      · decide
      · exact not_isBlank_of_isDigit ((isDecimal_toDigits (magnitude + 1)).digits char digit)

theorem visibleEnds_enclosed {first last : Char} {inside : List Char}
    (starts : isBlank first = false) (ends : isBlank last = false) :
    VisibleEnds (first :: (inside ++ [last])) := by
  refine ⟨List.cons_ne_nil _ _, ?_, ?_⟩
  · simpa using starts
  · rw [← List.cons_append, List.getLast?_append]
    simpa using ends

theorem VisibleEnds.append_space {text rest : List Char} (front : VisibleEnds text)
    (back : VisibleEnds rest) : VisibleEnds (text ++ ' ' :: rest) := by
  obtain ⟨first, others, rfl⟩ := List.exists_cons_of_ne_nil front.nonempty
  refine ⟨List.cons_ne_nil _ _, front.starts, ?_⟩
  rw [List.append_cons, List.getLast?_append_of_ne_nil _ back.nonempty]
  exact back.ends

/-- Texts with visible ends keep them when single spaces join them. -/
theorem visibleEnds_intercalate {texts : List (List Char)} (nonempty : texts ≠ [])
    (each : ∀ text ∈ texts, VisibleEnds text) : VisibleEnds ([' '].intercalate texts) := by
  induction texts with
  | nil => exact absurd rfl nonempty
  | cons text texts ih =>
      rw [List.forall_mem_cons] at each
      cases texts with
      | nil => simpa using each.1
      | cons next texts => simpa using each.1.append_space (ih (List.cons_ne_nil _ _) each.2)

end TableFlow.Text
