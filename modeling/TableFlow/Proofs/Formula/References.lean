import TableFlow.Formula.Clean
import TableFlow.Proofs.Formula.Lexeme
import TableFlow.Proofs.Text.Blank

/-!
# References in brackets

Step definitions write a formula as lexical elements: symbols, words, numbers, strings, and
references to columns between brackets.  Cleaning goes over the characters on its own, with a
simpler notion of a string than the reader of tokens has: a string ends at its first quote, and a
doubled quote starts another one at once.  The two stay in step, so that cleaning puts the
references into backticks and copies everything else.

Main statement: `tokenize_clean_written`.
-/

namespace TableFlow.Formula

open TableFlow.Text
open TableFlow.Number

/-- A character that cleaning copies wherever it meets it. -/
def IsInert (char : Char) : Prop :=
  char ≠ '\'' ∧ char ≠ '"' ∧ char ≠ '['

instance (char : Char) : Decidable (IsInert char) :=
  inferInstanceAs (Decidable (_ ∧ _))

theorem cleanChars_cons {char : Char} (inert : IsInert char) (rest : List Char) :
    cleanChars (char :: rest) = char :: cleanChars rest := by
  rw [cleanChars, if_neg, if_neg inert.2.2]
  rintro (same | same)
  · exact inert.1 same
  · exact inert.2.1 same

section Scan

variable {mark : Char} {inside rest : List Char} (absent : mark ∉ inside)

include absent

theorem takeWhile_ne_mark : (inside ++ mark :: rest).takeWhile (· != mark) = inside := by
  rw [List.takeWhile_append_of_pos]
  · simp
  · intro char member
    rw [bne_iff_ne]
    rintro rfl
    exact absent member

theorem dropWhile_ne_mark : (inside ++ mark :: rest).dropWhile (· != mark) = mark :: rest := by
  rw [List.dropWhile_append_of_pos]
  · simp
  · intro char member
    rw [bne_iff_ne]
    rintro rfl
    exact absent member

end Scan

/-- Cleaning copies what stands between two quotes. -/
theorem cleanChars_quote {quote : Char} (isQuote : quote = '\'' ∨ quote = '"')
    {inside : List Char} (absent : quote ∉ inside) (rest : List Char) :
    cleanChars (quote :: (inside ++ quote :: rest)) =
      quote :: (inside ++ quote :: cleanChars rest) := by
  have back : (inside ++ quote :: rest).dropWhile (· != quote) = quote :: rest :=
    dropWhile_ne_mark absent
  rw [cleanChars, if_pos isQuote]
  split
  · rename_i found
    rw [back] at found
    cases found
  · rename_i found
    rw [back] at found
    cases found
    rw [takeWhile_ne_mark absent, List.cons_append]

/-- Cleaning puts what stands between two brackets into backticks. -/
theorem cleanChars_bracket {name : List Char} (absent : ']' ∉ name) (rest : List Char) :
    cleanChars ('[' :: (name ++ ']' :: rest)) =
      '\x60' :: (name ++ '\x60' :: cleanChars rest) := by
  have back : (name ++ ']' :: rest).dropWhile (· != ']') = ']' :: rest := dropWhile_ne_mark absent
  rw [cleanChars, if_neg (by decide), if_pos rfl]
  split
  · rename_i found
    rw [back] at found
    cases found
  · rename_i found
    rw [back] at found
    cases found
    rw [takeWhile_ne_mark absent, List.cons_append]

/-- Cleaning copies a text, whatever follows it. -/
def Untouched (text : List Char) : Prop :=
  ∀ rest, cleanChars (text ++ rest) = text ++ cleanChars rest

theorem untouched_of_isInert {text : List Char} (inert : ∀ char ∈ text, IsInert char) :
    Untouched text := by
  intro rest
  induction text with
  | nil => rfl
  | cons char text ih =>
      rw [List.forall_mem_cons] at inert
      rw [List.cons_append, cleanChars_cons inert.1, ih inert.2, List.cons_append]

/-- Cleaning takes a string with doubled quotes for several strings side by side. -/
theorem untouched_quoted {quote : Char} (isQuote : quote = '\'' ∨ quote = '"')
    (value : List Char) : Untouched (quote :: (doubled quote value ++ [quote])) := by
  -- `inside` is what the current string holds already; a quote of the value closes it.
  have step : ∀ inside rest : List Char, quote ∉ inside →
      cleanChars (quote :: (inside ++ (doubled quote value ++ quote :: rest))) =
        quote :: (inside ++ (doubled quote value ++ quote :: cleanChars rest)) := by
    induction value with
    | nil =>
        intro inside rest absent
        exact cleanChars_quote isQuote absent rest
    | cons char value ih =>
        intro inside rest absent
        rw [doubled, List.flatMap_cons, ← doubled]
        split
        · have next := ih [] rest List.not_mem_nil
          rw [List.nil_append, List.nil_append] at next
          simp only [List.cons_append, List.nil_append]
          rw [cleanChars_quote isQuote absent, next]
        · rename_i differs
          have longer : quote ∉ inside ++ [char] := by
            simp [absent, Ne.symm differs]
          simpa using ih (inside ++ [char]) rest longer
  intro rest
  simpa using step [] rest List.not_mem_nil

theorem isInert_of_continuesWord {char : Char} (continues : continuesWord char = true) :
    IsInert char := by
  refine ⟨?_, ?_, ?_⟩ <;>
  · rintro rfl
    exact absurd continues (by decide)

theorem isInert_of_isDigit {char : Char} (digit : isDigit char = true) : IsInert char := by
  refine ⟨?_, ?_, ?_⟩ <;>
  · rintro rfl
    exact absurd digit (by decide)

theorem IsNumeral.isInert {digits : List Char} (numeral : IsNumeral digits) :
    ∀ char ∈ digits, IsInert char := by
  intro char member
  cases numeral with
  | whole each nonempty => exact isInert_of_isDigit (each char member)
  | point wholeDigits fractionDigits nonempty =>
      rcases List.mem_append.1 member with inWhole | behind
      · exact isInert_of_isDigit (wholeDigits char inWhole)
      · rcases List.mem_cons.1 behind with rfl | inFraction
        · decide
        · exact isInert_of_isDigit (fractionDigits char inFraction)

theorem isInert_symbol : ∀ symbol ∈ symbols, ∀ char ∈ symbol.1, IsInert char := by
  have all : symbols.all (fun symbol => symbol.1.all fun char => decide (IsInert char)) = true := by
    decide
  intro symbol listed char member
  simpa using List.all_eq_true.1 (List.all_eq_true.1 all symbol listed) char member

/-- Cleaning leaves every lexeme alone, except for names in backticks that it would look into. -/
theorem Lexeme.untouched {text : List Char} {token : Token} (lexeme : Lexeme text token)
    (plain : text.head? = some '\x60' → ∀ char ∈ text, IsInert char) : Untouched text := by
  cases lexeme with
  | symbol listed => exact untouched_of_isInert (isInert_symbol _ listed)
  | keyword bare known =>
      exact untouched_of_isInert fun char member =>
        isInert_of_continuesWord (bare.continues char member)
  | identifier bare unknown =>
      exact untouched_of_isInert fun char member =>
        isInert_of_continuesWord (bare.continues char member)
  | number numeral => exact untouched_of_isInert numeral.isInert
  | string isQuote value => exact untouched_quoted isQuote value
  | name absent => exact untouched_of_isInert (plain rfl)

theorem IsNumeral.visibleEnds {digits : List Char} (numeral : IsNumeral digits) :
    VisibleEnds digits := by
  cases numeral with
  | whole each nonempty =>
      exact visibleEnds_of_all nonempty fun char member => not_isBlank_of_isDigit (each char member)
  | point wholeDigits fractionDigits nonempty =>
      apply visibleEnds_of_all (by simp)
      intro char member
      rcases List.mem_append.1 member with inWhole | behind
      · exact not_isBlank_of_isDigit (wholeDigits char inWhole)
      · rcases List.mem_cons.1 behind with rfl | inFraction
        · decide
        · exact not_isBlank_of_isDigit (fractionDigits char inFraction)

theorem Lexeme.visibleEnds {text : List Char} {token : Token} (lexeme : Lexeme text token) :
    VisibleEnds text := by
  have bareEnds {word : List Char} (bare : IsBare word) : VisibleEnds word := by
    obtain ⟨first, others, rfl, _⟩ := bare.exists_cons
    exact visibleEnds_of_all (List.cons_ne_nil _ _) fun char member =>
      not_isBlank_of_continuesWord (bare.continues char member)
  cases lexeme with
  | symbol listed =>
      have all : symbols.all (fun symbol =>
          !symbol.1.isEmpty && symbol.1.all fun char => !isBlank char) = true := by decide
      have visible : ¬ text = [] ∧ ∀ char ∈ text, isBlank char = false := by
        simpa using List.all_eq_true.1 all _ listed
      exact visibleEnds_of_all visible.1 visible.2
  | keyword bare known => exact bareEnds bare
  | identifier bare unknown => exact bareEnds bare
  | number numeral => exact numeral.visibleEnds
  | @string quote isQuote value =>
      have visible : isBlank quote = false := by
        rcases isQuote with rfl | rfl <;> decide
      exact visibleEnds_enclosed visible visible
  | name plain => exact visibleEnds_enclosed (by decide) (by decide)

/-- The text of a lexical element as step definitions write it, with its token: a lexeme outside
backticks, or a reference in brackets. -/
inductive Written : List Char → Token → Prop where
  | lexeme {text : List Char} {token : Token} (lexeme : Lexeme text token)
      (unquoted : text.head? ≠ some '\x60') : Written text token
  | reference {name : List Char} (closed : ']' ∉ name) (plain : '\x60' ∉ name) :
      Written ('[' :: (name ++ [']'])) (.identifier (String.ofList name))

/-- A lexical element. -/
structure Element where
  text : List Char
  token : Token
  written : Written text token

/-- Elements with single spaces between them. -/
def written (elements : List Element) : List Char :=
  [' '].intercalate (elements.map Element.text)

namespace Written

variable {text : List Char} {token : Token} (written : Written text token)

include written

/-- Cleaning an element does not depend on what follows it. -/
theorem cleanChars_append (rest : List Char) :
    cleanChars (text ++ rest) = cleanChars text ++ cleanChars rest := by
  cases written with
  | lexeme lexeme unquoted =>
      have untouched := lexeme.untouched fun quoted => absurd quoted unquoted
      have alone := untouched []
      rw [List.append_nil, cleanChars, List.append_nil] at alone
      rw [untouched rest, alone]
  | reference closed plain =>
      simp [cleanChars_bracket closed, cleanChars]

/-- A cleaned element is read as its token. -/
theorem readAs_cleanChars : ReadAs (cleanChars text) token := by
  cases written with
  | lexeme lexeme unquoted =>
      have alone := lexeme.untouched (fun quoted => absurd quoted unquoted) []
      rw [List.append_nil, cleanChars, List.append_nil] at alone
      rw [alone]
      exact lexeme.readAs
  | reference closed plain =>
      rw [cleanChars_bracket closed, cleanChars]
      exact readAs_name plain

/-- An element starts and ends visibly. -/
theorem visibleEnds : VisibleEnds text := by
  cases written with
  | lexeme lexeme unquoted => exact lexeme.visibleEnds
  | reference closed plain => exact visibleEnds_enclosed (by decide) (by decide)

end Written

/-- Cleaning goes from element to element. -/
theorem cleanChars_written (elements : List Element) :
    cleanChars (written elements) =
      [' '].intercalate (elements.map fun element => cleanChars element.text) := by
  induction elements with
  | nil => simp [written, cleanChars]
  | cons element elements ih =>
      cases elements with
      | nil => simp [written]
      | cons next elements =>
          have space : cleanChars (' ' :: written (next :: elements)) =
              ' ' :: cleanChars (written (next :: elements)) := cleanChars_cons (by decide) _
          calc
            cleanChars (written (element :: next :: elements)) =
                cleanChars (element.text ++ ' ' :: written (next :: elements)) := by
              simp [written]
            _ = cleanChars element.text ++ ' ' :: cleanChars (written (next :: elements)) := by
              rw [element.written.cleanChars_append, space]
            _ = _ := by
              rw [ih]
              simp

theorem visibleEnds_written {elements : List Element} (nonempty : elements ≠ []) :
    VisibleEnds (written elements) := by
  apply visibleEnds_intercalate
  · simpa using nonempty
  · exact List.forall_mem_map.2 fun element _ => element.written.visibleEnds

/-- Cleaning turns references into column names and leaves everything else alone: elements that are
written with single spaces between them and any blanks around them are read, once cleaned, as their
tokens. -/
theorem tokenize_clean_written (elements : List Element) {before after : List Char}
    (blankBefore : ∀ char ∈ before, isBlank char = true)
    (blankAfter : ∀ char ∈ after, isBlank char = true) :
    tokenize (clean (String.ofList (before ++ written elements ++ after))) =
      .ok (elements.map Element.token ++ [.eof]) := by
  have trimmed : trimChars (before ++ written elements ++ after) = written elements := by
    cases elements with
    | nil =>
      exact trimChars_surrounded blankBefore blankAfter (by simp [written]) (by simp [written])
    | cons element elements =>
        have visible := visibleEnds_written (List.cons_ne_nil element elements)
        exact trimChars_surrounded blankBefore blankAfter visible.starts visible.ends
  have readBack : ∀ text ∈ elements.map fun element => (cleanChars element.text, element.token),
      ReadAs text.1 text.2 :=
    List.forall_mem_map.2 fun element _ => element.written.readAs_cleanChars
  have tokenized := tokenizeChars_intercalate readBack
  simp only [List.map_map, Function.comp_def] at tokenized
  simp only [tokenize, clean, String.toList_ofList, trimmed, cleanChars_written, tokenized]

/-- A reference with a quote in its name, a keyword in capitals, a number without whole part and a
string that holds a quote and brackets. -/
def shelfElements : List Element :=
  [⟨_, _, .reference (show ']' ∉ ['u', 'n', 'i', 't', ' ', '\'', 'p'] by decide) (by decide)⟩,
   ⟨['*'], .star, .lexeme (.symbol (by decide)) (by decide)⟩,
   ⟨_, _, .lexeme (.identifier (show IsBare ['Q', 't', 'y'] by decide) (by decide +kernel))
     (by decide)⟩,
   ⟨['>', '='], .greaterEqual, .lexeme (.symbol (by decide)) (by decide)⟩,
   ⟨_, _, .lexeme (.number (show IsNumeral ([] ++ '.' :: ['5']) from
     .point (List.forall_mem_nil _) (List.forall_mem_singleton.2 rfl) (by decide))) (by decide)⟩,
   ⟨['A', 'N', 'D'], .and, .lexeme (.keyword (by decide) (by decide +kernel)) (by decide)⟩,
   ⟨_, _, .lexeme (.identifier (show IsBare ['l', 'o', 't'] by decide) (by decide +kernel))
     (by decide)⟩,
   ⟨['<', '>'], .notEqual, .lexeme (.symbol (by decide)) (by decide)⟩,
   ⟨_, _, .lexeme (.string (.inl rfl) ['i', 't', '\'', 's', ' ', '[', '1', ']']) (by decide)⟩]

/-- Their text. -/
def shelfText : String :=
  "\t[unit 'p] * Qty >= .5 AND lot <> 'it''s [1]' \n"

/-- Their tokens. -/
def shelfTokens : List Token :=
  [.identifier "unit 'p", .star, .identifier "Qty", .greaterEqual, .number ".5", .and,
   .identifier "lot", .notEqual, .string "it's [1]"]

/-- A name in brackets with a quote in it, and brackets in a string, which stay. -/
theorem tokenize_clean_written_shelf :
    ['\t'].all isBlank = true ∧ [' ', '\n'].all isBlank = true ∧
      shelfText = String.ofList (['\t'] ++ written shelfElements ++ [' ', '\n']) ∧
      tokenize (clean shelfText) = .ok (shelfTokens ++ [.eof]) := by
  have before : ['\t'].all isBlank = true := by decide
  have after : [' ', '\n'].all isBlank = true := by decide
  have text : shelfText = String.ofList (['\t'] ++ written shelfElements ++ [' ', '\n']) := rfl
  have tokens : shelfElements.map Element.token = shelfTokens := rfl
  refine ⟨before, after, text, ?_⟩
  rw [text, ← tokens]
  exact tokenize_clean_written shelfElements (List.all_eq_true.1 before) (List.all_eq_true.1 after)

end TableFlow.Formula
