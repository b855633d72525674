import Mathlib.Data.List.TakeWhile
import TableFlow.Formula.Parser
import TableFlow.Proofs.Number.Reader

/-!
# Tokens of texts

What the tokens of a text have in common: only the last one is the end marker, and the digits of
every number stand for a cell.
-/

namespace TableFlow.Formula

open TableFlow.Number

/-- A decimal without power of ten is read as a float. -/
theorem isSome_readDecimal? (negative : Bool) {whole fraction : List Char}
    (wholeDigits : ∀ char ∈ whole, isDigit char = true)
    (fractionDigits : ∀ char ∈ fraction, isDigit char = true) (nonempty : whole ++ fraction ≠ []) :
    (readDecimal? negative (whole ++ '.' :: fraction)).isSome := by
  have point : isDigit '.' = false := by decide
  have front : (whole ++ '.' :: fraction).takeWhile isDigit = whole := by
    rw [List.takeWhile_append_of_pos wholeDigits]
    simp [point]
  have back : (whole ++ '.' :: fraction).dropWhile isDigit = '.' :: fraction := by
    rw [List.dropWhile_append_of_pos wholeDigits]
    simp [point]
  have all : fraction.takeWhile isDigit = fraction := List.takeWhile_eq_self_iff.2 fractionDigits
  have none : fraction.dropWhile isDigit = [] := List.dropWhile_eq_nil_iff.2 fractionDigits
  have some : (whole ++ fraction).isEmpty = false := by simpa using nonempty
  simp only [readDecimal?, front, back, all, none, some, readPower?]
  rfl

/-- Digits that do not start with a sign stand for a cell if they are a decimal. -/
theorem isSome_numberCell? {chars : List Char} (unsigned : splitSign chars = (false, chars))
    (decimal : (readDecimal? false chars).isSome) : (numberCell? (String.ofList chars)).isSome := by
  have float : (readFloat? chars).isSome := by
    simp only [readFloat?, unsigned]
    split
    · rfl
    · split
      · rfl
      · exact decimal
  unfold numberCell?
  rw [String.toList_ofList]
  split
  · rfl
  · simpa using float

/-- The digits that are read for a number stand for a cell. -/
theorem isSome_numberCell?_readDigits {char : Char} {rest : List Char}
    (starts : isDigit char = true ∨ (char = '.' ∧ rest.head?.any isDigit = true)) :
    (numberCell? (String.ofList (readDigits (char :: rest)).1)).isSome := by
  have digits : ∀ chars : List Char, ∀ char ∈ chars.takeWhile isDigit, isDigit char = true :=
    fun _ _ inside => List.mem_takeWhile_imp inside
  rcases starts with digit | ⟨rfl, follows⟩
  · have front : (char :: rest).takeWhile isDigit = char :: rest.takeWhile isDigit :=
      List.takeWhile_cons_of_pos digit
    have whole : ∀ next ∈ char :: rest.takeWhile isDigit, isDigit next = true := by
      rw [← front]
      exact digits (char :: rest)
    simp only [readDigits, front]
    split
    · rename_i after found
      exact isSome_numberCell? (splitSign_of_isDigit _ (.inl digit))
        (isSome_readDecimal? false whole (digits after) (List.cons_ne_nil _ _))
    · have read := readDecimal?_digits false whole (List.cons_ne_nil _ _)
      exact isSome_numberCell? (splitSign_of_isDigit _ (.inl digit)) (Option.isSome_of_eq_some read)
  · have point : ¬ isDigit '.' = true := by decide
    have nonempty : rest.takeWhile isDigit ≠ [] := by
      cases rest with
      | nil => cases follows
      | cons next tail =>
          rw [List.takeWhile_cons_of_pos (by simpa using follows)]
          exact List.cons_ne_nil _ _
    simp only [readDigits, List.takeWhile_cons_of_neg point, List.dropWhile_cons_of_neg point]
    exact isSome_numberCell? (splitSign_of_isDigit _ (.inr rfl))
      (isSome_readDecimal? false (by simp) (digits rest) (by simpa using nonempty))

/-- A token that stands in a text: it is not the end marker, and as a number it has a cell. -/
structure Lexed (token : Token) : Prop where
  notEof : token ≠ .eof
  number : ∀ digits, token = .number digits → (numberCell? digits).isSome

theorem lexed_wordToken (word : String) : Lexed (wordToken word) := by
  unfold wordToken keyword?
  split <;> exact ⟨nofun, nofun⟩

theorem lexed_of_readToken {char : Char} {chars rest : List Char} {token : Token}
    (read : readToken char chars = .ok (token, rest)) : Lexed token := by
  unfold readToken at read
  split at read
  case h_8 => split at read <;> cases read <;> exact ⟨nofun, nofun⟩
  case h_9 => split at read <;> cases read <;> exact ⟨nofun, nofun⟩
  case h_10 => split at read <;> cases read <;> exact ⟨nofun, nofun⟩
  case h_11 =>
    split at read <;> cases read
    exact ⟨nofun, nofun⟩
  case h_12 =>
    split at read <;> cases read
    exact ⟨nofun, nofun⟩
  case h_13 =>
    split at read
    · split at read <;> cases read
      exact ⟨nofun, nofun⟩
    · split at read
      · simp only [Except.ok.injEq, Prod.mk.injEq] at read
        rw [← read.1]
        exact lexed_wordToken _
      · split at read
        · rename_i starts
          simp only [Except.ok.injEq, Prod.mk.injEq] at read
          rw [← read.1]
          refine ⟨nofun, ?_⟩
          intro digits same
          rw [← Token.number.inj same]
          exact isSome_numberCell?_readDigits starts
        · cases read
  all_goals
    cases read
    exact ⟨nofun, nofun⟩

/-- The tokens of a text are those that stand in it and the end marker behind them. -/
theorem lexed_of_tokenizeChars {chars : List Char} {all : List Token}
    (read : tokenizeChars chars = .ok all) :
    ∃ tokens, all = tokens ++ [.eof] ∧ ∀ token ∈ tokens, Lexed token := by
  fun_induction tokenizeChars chars generalizing all with
  | case1 =>
      cases read
      exact ⟨[], rfl, nofun⟩
  | case2 char rest blank ih => exact ih read
  | case3 => cases read
  | case4 => cases read
  | case5 char rest _ token after found _ tokens later ih =>
      cases read
      obtain ⟨inside, rfl, each⟩ := ih later
      exact ⟨token :: inside, rfl, List.forall_mem_cons.2 ⟨lexed_of_readToken found, each⟩⟩

theorem tokenizeChars_of_tokenize {source : String} {tokens : List Token}
    (read : tokenize source = .ok tokens) : tokenizeChars source.toList = .ok tokens := by
  unfold tokenize at read
  split at read
  · rename_i found
    cases read
    exact found
  · cases read

end TableFlow.Formula
