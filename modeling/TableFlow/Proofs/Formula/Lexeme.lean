import Mathlib.Tactic.FinCases
import TableFlow.Proofs.Formula.Spelling
import TableFlow.Proofs.Text.Blank

/-!
# Lexemes

A lexeme is a text that is one token: a symbol, a word, a number, a string in quotes or a name in
backticks.  Every lexeme is read as its token where a space or nothing follows it, and the reader
takes nothing but lexemes and blanks from a text.  No lexeme ends with a blank, so that blanks
around a text do not change its tokens.  The token of every lexeme can be spelled, so that the
tokens of a text are read back from their spellings.

Main statements: `Lexeme.readAs`, `scans_of_tokenizeChars`, `tokenizeChars_trimChars` and
`tokenize_spell_of_tokenize`.
-/

namespace TableFlow.Formula

open TableFlow.Text
open TableFlow.Number

/-- The operators in all their spellings and the parentheses, with their tokens. -/
def symbols : List (List Char × Token) :=
  [(['+'], .plus), (['-'], .minus), (['*'], .star), (['/'], .slash), (['%'], .percent),
   (['='], .equal), (['=', '='], .equal), (['<', '>'], .notEqual), (['!', '='], .notEqual),
   (['<'], .less), (['<', '='], .lessEqual), (['>'], .greater), (['>', '='], .greaterEqual),
   (['('], .leftParen), ([')'], .rightParen)]

/-- The characters of a number: some digits, among them or around them at most one point. -/
inductive IsNumeral : List Char → Prop where
  | whole {digits : List Char} (each : ∀ char ∈ digits, isDigit char = true)
      (nonempty : digits ≠ []) : IsNumeral digits
  | point {whole fraction : List Char} (wholeDigits : ∀ char ∈ whole, isDigit char = true)
      (fractionDigits : ∀ char ∈ fraction, isDigit char = true)
      (nonempty : whole ++ fraction ≠ []) : IsNumeral (whole ++ '.' :: fraction)

/-- A text that is one token. -/
inductive Lexeme : List Char → Token → Prop where
  | symbol {text : List Char} {token : Token} (listed : (text, token) ∈ symbols) :
      Lexeme text token
  | keyword {word : List Char} {token : Token} (bare : IsBare word)
      (known : keyword? (String.ofList word) = some token) : Lexeme word token
  | identifier {word : List Char} (bare : IsBare word)
      (unknown : keyword? (String.ofList word) = none) :
      Lexeme word (.identifier (String.ofList word))
  | number {digits : List Char} (numeral : IsNumeral digits) :
      Lexeme digits (.number (String.ofList digits))
  | string {quote : Char} (isQuote : quote = '\'' ∨ quote = '"') (value : List Char) :
      Lexeme (quote :: (doubled quote value ++ [quote])) (.string (String.ofList value))
  | name {name : List Char} (plain : '\x60' ∉ name) :
      Lexeme ('\x60' :: (name ++ ['\x60'])) (.identifier (String.ofList name))

theorem readAs_symbol : ∀ symbol ∈ symbols, ReadAs symbol.1 symbol.2 := by
  intro symbol listed
  fin_cases listed
  all_goals
    refine ⟨_, _, rfl, by decide, ?_⟩
    rintro _ (_ | _) <;> rfl

theorem isNumber_of_isNumeral {digits : List Char} (numeral : IsNumeral digits) :
    IsNumber digits := by
  have noDigit : isDigit '.' = false := by decide
  cases numeral with
  | whole each nonempty =>
      obtain ⟨first, others, rfl⟩ := List.exists_cons_of_ne_nil nonempty
      refine ⟨⟨first, others, rfl, .inl (each first List.mem_cons_self)⟩, ?_⟩
      rw [readDigits, List.takeWhile_eq_self_iff.2 each, List.dropWhile_eq_nil_iff.2 each]
  | @point whole fraction wholeDigits fractionDigits nonempty =>
      constructor
      · cases whole with
        | nil =>
            obtain ⟨first, others, rfl⟩ := List.exists_cons_of_ne_nil nonempty
            exact ⟨'.', _, rfl, .inr ⟨rfl, fractionDigits first List.mem_cons_self⟩⟩
        | cons first whole =>
            exact ⟨first, _, rfl, .inl (wholeDigits first List.mem_cons_self)⟩
      · rw [readDigits, List.takeWhile_append_of_pos wholeDigits,
          List.dropWhile_append_of_pos wholeDigits]
        simp [noDigit, List.takeWhile_eq_self_iff.2 fractionDigits,
          List.dropWhile_eq_nil_iff.2 fractionDigits]

theorem Lexeme.readAs {text : List Char} {token : Token} (lexeme : Lexeme text token) :
    ReadAs text token := by
  cases lexeme with
  | symbol listed => exact readAs_symbol _ listed
  | keyword bare known => simpa [wordToken, known] using readAs_bare bare
  | identifier bare unknown => simpa [wordToken, unknown] using readAs_bare bare
  | number numeral => exact readAs_number (isNumber_of_isNumeral numeral)
  | string isQuote value => exact readAs_quoted isQuote value
  | name plain => exact readAs_name plain

/-- A string is read up to a quote that is not doubled. -/
theorem eq_doubled_of_readQuoted? {quote : Char} {chars content rest : List Char}
    (read : readQuoted? quote chars = some (content, rest)) :
    chars = doubled quote content ++ quote :: rest ∧ ∀ char ∈ rest.head?, char ≠ quote := by
  fun_induction readQuoted? quote chars generalizing content rest with
  | case1 => cases read
  | case2 =>
      cases read
      exact ⟨rfl, by simp⟩
  | case3 after ih =>
      obtain ⟨⟨inner, tail⟩, found, same⟩ := Option.map_eq_some_iff.1 read
      cases same
      obtain ⟨rfl, ends⟩ := ih found
      exact ⟨by simp [doubled], ends⟩
  | case4 next after differs =>
      cases read
      exact ⟨rfl, by simpa using differs⟩
  | case5 char after differs ih =>
      obtain ⟨⟨inner, tail⟩, found, same⟩ := Option.map_eq_some_iff.1 read
      cases same
      obtain ⟨rfl, ends⟩ := ih found
      exact ⟨by simp [doubled, differs], ends⟩

theorem eq_append_of_readName? {chars name rest : List Char}
    (read : readName? chars = some (name, rest)) :
    chars = name ++ '\x60' :: rest ∧ '\x60' ∉ name := by
  fun_induction readName? chars generalizing name rest with
  | case1 => cases read
  | case2 => cases read; exact ⟨rfl, List.not_mem_nil⟩
  | case3 char after differs ih =>
      obtain ⟨⟨inner, tail⟩, found, same⟩ := Option.map_eq_some_iff.1 read
      cases same
      obtain ⟨rfl, plain⟩ := ih found
      exact ⟨rfl, by simp [plain, Ne.symm differs]⟩

/-- The digits of a number and what follows are the text. -/
theorem readDigits_append_eq (chars : List Char) :
    (readDigits chars).1 ++ (readDigits chars).2 = chars := by
  simp only [readDigits]
  split
  · rename_i rest found
    calc
      chars.takeWhile isDigit ++ '.' :: rest.takeWhile isDigit ++ rest.dropWhile isDigit =
          chars.takeWhile isDigit ++ '.' :: rest := by simp
      _ = chars := by rw [← found, List.takeWhile_append_dropWhile]
  · exact List.takeWhile_append_dropWhile

/-- A number takes its first character. -/
theorem readDigits_cons {char : Char} {rest : List Char}
    (starts : isDigit char = true ∨ (char = '.' ∧ rest.head?.any isDigit = true)) :
    ∃ others, (readDigits (char :: rest)).1 = char :: others ∧
      rest = others ++ (readDigits (char :: rest)).2 := by
  have whole := readDigits_append_eq (char :: rest)
  have shorter := readDigits_length starts
  cases taken : (readDigits (char :: rest)).1 with
  | nil =>
      rw [taken, List.nil_append] at whole
      rw [whole] at shorter
      exact absurd shorter (by simp)
  | cons first others =>
      rw [taken, List.cons_append, List.cons.injEq] at whole
      exact ⟨others, by rw [whole.1], whole.2.symm⟩

theorem isNumeral_readDigits {char : Char} {rest : List Char}
    (starts : isDigit char = true ∨ (char = '.' ∧ rest.head?.any isDigit = true)) :
    IsNumeral (readDigits (char :: rest)).1 := by
  have digits : ∀ chars : List Char, ∀ char ∈ chars.takeWhile isDigit, isDigit char = true :=
    fun _ _ inside => List.mem_takeWhile_imp inside
  have nonempty : ∀ chars : List Char, chars.head?.any isDigit = true →
      chars.takeWhile isDigit ≠ [] := by
    rintro (_ | ⟨first, others⟩) digit
    · cases digit
    · rw [List.head?_cons, Option.any_some] at digit
      rw [List.takeWhile_cons_of_pos digit]
      exact List.cons_ne_nil _ _
  simp only [readDigits]
  rcases starts with digit | ⟨rfl, follows⟩
  · have some : (char :: rest).takeWhile isDigit ≠ [] := nonempty (char :: rest) digit
    split
    · exact .point (digits _) (digits _) (by simp [some])
    · exact .whole (digits _) some
  · have point : ¬ isDigit '.' = true := by decide
    rw [List.takeWhile_cons_of_neg point, List.dropWhile_cons_of_neg point]
    exact .point (List.forall_mem_nil _) (digits _) (by simp [nonempty rest follows])

theorem lexeme_wordToken {first : Char} {others : List Char} (starts : startsWord first = true)
    (continues : ∀ char ∈ others, continuesWord char = true) :
    Lexeme (first :: others) (wordToken (String.ofList (first :: others))) := by
  have bare : IsBare (first :: others) :=
    ⟨starts, List.forall_mem_cons.2 ⟨continuesWord_of_startsWord starts, continues⟩⟩
  unfold wordToken
  cases found : keyword? (String.ofList (first :: others)) with
  | none => exact .identifier bare found
  | some token => exact .keyword bare found

/-- What is read as a token is a lexeme. -/
theorem lexeme_of_readToken {char : Char} {chars rest : List Char} {token : Token}
    (read : readToken char chars = .ok (token, rest)) :
    ∃ others, chars = others ++ rest ∧ Lexeme (char :: others) token := by
  unfold readToken at read
  split at read
  case h_8 | h_10 =>
    split at read <;> cases read
    · exact ⟨[_], rfl, .symbol (by decide)⟩
    · exact ⟨[], rfl, .symbol (by decide)⟩
  case h_9 =>
    split at read <;> cases read
    · exact ⟨[_], rfl, .symbol (by decide)⟩
    · exact ⟨[_], rfl, .symbol (by decide)⟩
    · exact ⟨[], rfl, .symbol (by decide)⟩
  case h_11 =>
    split at read <;> cases read
    exact ⟨[_], rfl, .symbol (by decide)⟩
  case h_12 =>
    split at read
    · rename_i found
      cases read
      obtain ⟨rfl, plain⟩ := eq_append_of_readName? found
      exact ⟨_, List.append_cons .., .name plain⟩
    · cases read
  case h_13 =>
    split at read
    · rename_i isQuote
      split at read
      · rename_i found
        cases read
        exact ⟨_, (eq_doubled_of_readQuoted? found).1.trans (List.append_cons ..),
          .string isQuote _⟩
      · cases read
    · split at read
      · rename_i starts
        -- A case split here would run through the table of keywords.
        rw [Except.ok.injEq, Prod.mk.injEq] at read
        obtain ⟨rfl, rfl⟩ := read
        exact ⟨_, List.takeWhile_append_dropWhile.symm,
          lexeme_wordToken starts fun _ inside => List.mem_takeWhile_imp inside⟩
      · split at read
        · rename_i starts
          cases read
          obtain ⟨others, first, behind⟩ := readDigits_cons starts
          exact ⟨others, behind, first ▸ .number (isNumeral_readDigits starts)⟩
        · cases read
  all_goals
    cases read
    exact ⟨[], rfl, .symbol (by decide)⟩

/-! ## Blanks behind a text -/

theorem exists_of_tokenizeChars_cons {char : Char} {chars : List Char} {all : List Token}
    (visible : ¬ isBlank char = true) (read : tokenizeChars (char :: chars) = .ok all) :
    ∃ token after tokens, readToken char chars = .ok (token, after) ∧
      tokenizeChars after = .ok tokens ∧ all = token :: tokens := by
  rw [tokenizeChars, if_neg visible] at read
  split at read
  · cases read
  · rename_i token after found
    split at read
    · cases read
    · rename_i tokens later
      cases read
      exact ⟨token, after, tokens, found, later, rfl⟩

section Blanks

variable {blanks : List Char} (blank : ∀ char ∈ blanks, isBlank char = true)

include blank

theorem not_mem_blanks {char : Char} (visible : isBlank char = false) : char ∉ blanks := by
  intro inside
  rw [blank char inside] at visible
  cases visible

theorem head?_blanks {test : Char → Bool}
    (apart : ∀ char, test char = true → isBlank char = false) :
    ∀ char ∈ blanks.head?, test char = false := by
  intro char first
  cases holds : test char with
  | false => rfl
  | true => exact absurd (List.mem_of_mem_head? first) (not_mem_blanks blank (apart char holds))

/-- What is read up to a visible character is read before the blanks. -/
theorem exists_left_of_append_blanks {mark : Char} (visible : isBlank mark = false)
    {chars inside rest : List Char} (same : chars ++ blanks = inside ++ mark :: rest) :
    ∃ left, rest = left ++ blanks ∧ chars = inside ++ mark :: left := by
  have absent := not_mem_blanks blank visible
  rcases List.append_eq_append_iff.1 same with ⟨more, _, behind⟩ | ⟨more, front, behind⟩
  · rw [behind] at absent
    exact absurd absent (by simp)
  · cases more with
    | nil =>
        rw [List.nil_append] at behind
        rw [← behind] at absent
        exact absurd absent (by simp)
    | cons first left =>
        rw [List.cons_append, List.cons.injEq] at behind
        exact ⟨left, behind.2, by rw [front, behind.1]⟩

theorem readQuoted?_of_append_blanks {quote : Char} (visible : isBlank quote = false)
    {chars content rest : List Char}
    (read : readQuoted? quote (chars ++ blanks) = some (content, rest)) :
    ∃ left, rest = left ++ blanks ∧ readQuoted? quote chars = some (content, left) := by
  obtain ⟨same, ends⟩ := eq_doubled_of_readQuoted? read
  obtain ⟨left, rfl, rfl⟩ := exists_left_of_append_blanks blank visible same
  refine ⟨left, rfl, readQuoted?_doubled content ?_⟩
  intro char first
  apply ends char
  cases left with
  | nil => cases first
  | cons next left => exact first

theorem readName?_of_append_blanks {chars name rest : List Char}
    (read : readName? (chars ++ blanks) = some (name, rest)) :
    ∃ left, rest = left ++ blanks ∧ readName? chars = some (name, left) := by
  obtain ⟨same, plain⟩ := eq_append_of_readName? read
  obtain ⟨left, rfl, rfl⟩ := exists_left_of_append_blanks blank (by decide) same
  exact ⟨left, rfl, readName?_append plain left⟩

theorem readDigits_append_blanks (chars : List Char) :
    readDigits (chars ++ blanks) = ((readDigits chars).1, (readDigits chars).2 ++ blanks) := by
  have stops := head?_blanks blank fun _ => not_isBlank_of_isDigit
  simp only [readDigits]
  rw [takeWhile_append_of_head chars stops, dropWhile_append_of_head chars stops]
  cases behind : chars.dropWhile isDigit with
  | nil =>
      have noPoint : ∀ rest, [] ++ blanks ≠ '.' :: rest := by
        rintro rest rfl
        exact not_mem_blanks blank (by decide) List.mem_cons_self
      split
      · rename_i found
        exact absurd found (noPoint _)
      · rfl
  | cons next tail =>
      by_cases point : next = '.'
      · subst point
        simp [takeWhile_append_of_head tail stops, dropWhile_append_of_head tail stops]
      · simp [point]

/-- A symbol of one or two characters is read before the blanks. -/
theorem readToken_symbol_of_append_blanks {char : Char} {chars rest : List Char} {token : Token}
    (isSymbol : char = '=' ∨ char = '<' ∨ char = '>' ∨ char = '!')
    (read : readToken char (chars ++ blanks) = .ok (token, rest)) :
    ∃ left, rest = left ++ blanks ∧ readToken char chars = .ok (token, left) := by
  cases chars with
  | nil =>
      have noEqual : ∀ rest, blanks ≠ '=' :: rest := by
        rintro rest rfl
        exact not_mem_blanks blank (by decide) List.mem_cons_self
      have noGreater : ∀ rest, blanks ≠ '>' :: rest := by
        rintro rest rfl
        exact not_mem_blanks blank (by decide) List.mem_cons_self
      rcases isSymbol with rfl | rfl | rfl | rfl
      all_goals
        simp_all [readToken]
  | cons next chars =>
      rcases isSymbol with rfl | rfl | rfl | rfl
      all_goals
        simp only [readToken, List.cons_append] at read ⊢
        split at read <;> simp_all

/-- A token that is read from a text with blanks behind it is read from the text alone. -/
theorem readToken_of_append_blanks {char : Char} {chars rest : List Char} {token : Token}
    (read : readToken char (chars ++ blanks) = .ok (token, rest)) :
    ∃ left, rest = left ++ blanks ∧ readToken char chars = .ok (token, left) := by
  have whole := read
  unfold readToken at read
  split at read
  case h_8 | h_9 | h_10 | h_11 => exact readToken_symbol_of_append_blanks blank (by decide) whole
  case h_12 =>
    split at read
    · rename_i found
      cases read
      obtain ⟨left, rfl, alone⟩ := readName?_of_append_blanks blank found
      exact ⟨left, rfl, by simp only [readToken, alone]⟩
    · cases read
  case h_13 =>
    split at read
    · rename_i isQuote
      have visible : isBlank char = false := by
        rcases isQuote with rfl | rfl <;> decide
      split at read
      · rename_i found
        cases read
        obtain ⟨left, rfl, alone⟩ := readQuoted?_of_append_blanks blank visible found
        exact ⟨left, rfl, readToken_quote isQuote alone⟩
      · cases read
    · split at read
      · rename_i starts
        have stops := head?_blanks blank fun _ => not_isBlank_of_continuesWord
        rw [takeWhile_append_of_head chars stops, dropWhile_append_of_head chars stops,
          Except.ok.injEq, Prod.mk.injEq] at read
        obtain ⟨rfl, rfl⟩ := read
        exact ⟨_, rfl, readToken_of_startsWord starts⟩
      · split at read
        · rename_i starts
          rw [← List.cons_append, readDigits_append_blanks blank] at read
          cases read
          refine ⟨_, rfl,
            readToken_of_isNumber (starts.imp_right (And.imp_right fun follows => ?_))⟩
          cases chars with
          | nil =>
              have stops := head?_blanks blank fun _ => not_isBlank_of_isDigit
              rw [List.nil_append, Option.any_eq_true] at follows
              obtain ⟨first, isFirst, digit⟩ := follows
              rw [stops first isFirst] at digit
              cases digit
          | cons next chars => exact follows
        · cases read
  all_goals
    cases read
    exact ⟨chars, rfl, rfl⟩

theorem tokenizeChars_append_of_blanks (chars : List Char) :
    tokenizeChars (blanks ++ chars) = tokenizeChars chars := by
  induction blanks with
  | nil => rfl
  | cons char blanks ih =>
      rw [List.forall_mem_cons] at blank
      rw [List.cons_append, tokenizeChars, if_pos blank.1, ih blank.2]

/-- A text with blanks behind it has no other tokens than the text. -/
theorem tokenizeChars_of_append_blanks {chars : List Char} {tokens : List Token}
    (read : tokenizeChars (chars ++ blanks) = .ok tokens) : tokenizeChars chars = .ok tokens := by
  induction size : chars.length using Nat.strongRecOn generalizing chars tokens with
  | ind size ih =>
      subst size
      cases chars with
      | nil =>
          rw [List.nil_append, ← List.append_nil blanks,
            tokenizeChars_append_of_blanks blank] at read
          exact read
      | cons char rest =>
          cases visible : isBlank char with
          | true =>
              rw [List.cons_append, tokenizeChars, if_pos visible] at read
              rw [tokenizeChars, if_pos visible]
              exact ih rest.length (Nat.lt_succ_self _) read rfl
          | false =>
              obtain ⟨token, after, others, found, later, rfl⟩ :=
                exists_of_tokenizeChars_cons (by simp [visible]) read
              obtain ⟨left, rfl, alone⟩ := readToken_of_append_blanks blank found
              have shorter : left.length < rest.length + 1 :=
                Nat.lt_succ_of_le (readToken_length alone)
              exact tokenizeChars_cons visible alone (ih left.length shorter later rfl)

end Blanks

/-- Trimming a text does not change its tokens. -/
theorem tokenizeChars_trimChars {chars : List Char} {tokens : List Token}
    (read : tokenizeChars chars = .ok tokens) : tokenizeChars (trimChars chars) = .ok tokens := by
  obtain ⟨before, after, shape, blankBefore, blankAfter⟩ := exists_surrounding chars
  rw [shape, List.append_assoc, tokenizeChars_append_of_blanks blankBefore] at read
  exact tokenizeChars_of_append_blanks blankAfter read

/-! ## Texts as lexemes -/

/-- A text of lexemes, with blanks between them or none, and its tokens. -/
inductive Scans : List Char → List Token → Prop where
  | nil : Scans [] []
  | blank {char : Char} {chars : List Char} {tokens : List Token} (blank : isBlank char = true)
      (rest : Scans chars tokens) : Scans (char :: chars) tokens
  | lexeme {text chars : List Char} {token : Token} {tokens : List Token}
      (lexeme : Lexeme text token) (rest : Scans chars tokens) :
      Scans (text ++ chars) (token :: tokens)

theorem scans_of_tokenizeChars {chars : List Char} {all : List Token}
    (read : tokenizeChars chars = .ok all) :
    ∃ tokens, all = tokens ++ [.eof] ∧ Scans chars tokens := by
  fun_induction tokenizeChars chars generalizing all with
  | case1 =>
      cases read
      exact ⟨[], rfl, .nil⟩
  | case2 char rest blank ih =>
      obtain ⟨tokens, rfl, scans⟩ := ih read
      exact ⟨tokens, rfl, .blank blank scans⟩
  | case3 => cases read
  | case4 => cases read
  | case5 char rest _ token after found _ tokens later ih =>
      cases read
      obtain ⟨tokens, rfl, scans⟩ := ih later
      obtain ⟨others, rfl, lexeme⟩ := lexeme_of_readToken found
      exact ⟨token :: tokens, rfl, .lexeme lexeme scans⟩

theorem spellable_of_keyword? {word : String} {token : Token} (known : keyword? word = some token) :
    token.Spellable := by
  unfold keyword? at known
  split at known <;> cases known <;> exact trivial

/-- No word holds a backtick, so that a name in backticks can be spelled even if it was read without
them. -/
theorem Lexeme.spellable {text : List Char} {token : Token} (lexeme : Lexeme text token) :
    token.Spellable := by
  cases lexeme with
  | symbol listed => fin_cases listed <;> exact trivial
  | keyword bare known => exact spellable_of_keyword? known
  | identifier bare unknown =>
      rw [Token.Spellable, String.toList_ofList]
      intro inside
      exact absurd (bare.continues _ inside) (by decide)
  | number numeral =>
      rw [Token.Spellable, String.toList_ofList]
      exact isNumber_of_isNumeral numeral
  | string isQuote value => exact trivial
  | name plain =>
      rw [Token.Spellable, String.toList_ofList]
      exact plain

theorem Scans.spellable {chars : List Char} {tokens : List Token} (scans : Scans chars tokens) :
    ∀ token ∈ tokens, token.Spellable := by
  induction scans with
  | nil => exact List.forall_mem_nil _
  | blank blank rest ih => exact ih
  | lexeme lexeme rest ih => exact List.forall_mem_cons.2 ⟨lexeme.spellable, ih⟩

/-- The tokens of a text are those of its lexemes and the end marker, which stands at the end and
nowhere else.  They are read back from their spellings. -/
theorem tokenize_spell_of_tokenize {source : String} {tokens : List Token}
    (read : tokenize source = .ok tokens) :
    tokens.getLast? = some .eof ∧ .eof ∉ tokens.dropLast ∧ Scans source.toList tokens.dropLast ∧
      tokenize (String.ofList (spell tokens.dropLast)) = .ok tokens := by
  obtain ⟨inside, rfl, scans⟩ := scans_of_tokenizeChars (tokenizeChars_of_tokenize read)
  rw [List.dropLast_concat]
  refine ⟨List.getLast?_concat .., scans.spellable .eof, scans, ?_⟩
  rw [tokenize, String.toList_ofList, tokenizeChars_spell scans.spellable]

/-- Other spellings of operators, quotes and keywords give the tokens of the one spelling each
has. -/
theorem tokenize_spell_of_tokenize_quotes :
    tokenize "1.<>.5or 'it''s'=\"say \"\"hi\"\"\"AND `null`IS None" = .ok
      [.number "1.", .notEqual, .number ".5", .or, .string "it's", .equal, .string "say \"hi\"",
        .and, .identifier "null", .is, .null, .eof] ∧
    tokenize "1. != .5 or 'it''s' == 'say \"hi\"' and `null` is null" = .ok
      [.number "1.", .notEqual, .number ".5", .or, .string "it's", .equal, .string "say \"hi\"",
        .and, .identifier "null", .is, .null, .eof] := by
  have read : tokenize "1.<>.5or 'it''s'=\"say \"\"hi\"\"\"AND `null`IS None" = .ok
      [.number "1.", .notEqual, .number ".5", .or, .string "it's", .equal, .string "say \"hi\"",
        .and, .identifier "null", .is, .null, .eof] := by
    decide +kernel
  exact ⟨read, (tokenize_spell_of_tokenize read).2.2.2⟩

end TableFlow.Formula
