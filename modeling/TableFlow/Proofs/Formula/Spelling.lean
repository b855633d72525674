import TableFlow.Proofs.Formula.Lexer
import TableFlow.Proofs.Json.Number

/-!
# Spelled tokens

Every token has a canonical spelling: columns stand in backticks, texts in single quotes with their
own quotes doubled, and keywords and operators have one spelling each.  Every spelling ends where a
space or nothing follows it, so tokens that are spelled with single spaces between them are read
back.

Main statement: `tokenizeChars_spell`.
-/

namespace TableFlow.Formula

open TableFlow.Text
open TableFlow.Number

/-- A text with every quote in it doubled. -/
def doubled (quote : Char) (chars : List Char) : List Char :=
  chars.flatMap fun char => if char = quote then [quote, quote] else [char]

/-- The canonical spelling of a token; the end marker has none. -/
def Token.spelling : Token → List Char
  | .identifier name => '\x60' :: (name.toList ++ ['\x60'])
  | .number digits => digits.toList
  | .string value => '\'' :: (doubled '\'' value.toList ++ ['\''])
  | .plus => ['+']
  | .minus => ['-']
  | .star => ['*']
  | .slash => ['/']
  | .percent => ['%']
  | .equal => ['=', '=']
  | .notEqual => ['!', '=']
  | .less => ['<']
  | .lessEqual => ['<', '=']
  | .greater => ['>']
  | .greaterEqual => ['>', '=']
  | .leftParen => ['(']
  | .rightParen => [')']
  | .and => ['a', 'n', 'd']
  | .or => ['o', 'r']
  | .not => ['n', 'o', 't']
  | .is => ['i', 's']
  | .null => ['n', 'u', 'l', 'l']
  | .true => ['t', 'r', 'u', 'e']
  | .false => ['f', 'a', 'l', 's', 'e']
  | .eof => []

/-- Tokens in their spellings, with single spaces between them. -/
def spell (tokens : List Token) : List Char :=
  [' '].intercalate (tokens.map Token.spelling)

/-- The characters of a number as it is read: digits with at most one point. -/
structure IsNumber (chars : List Char) : Prop where
  starts : ∃ first rest, chars = first :: rest ∧
    (isDigit first = true ∨ (first = '.' ∧ rest.head?.any isDigit = true))
  whole : readDigits chars = (chars, [])

/-- A token that can be spelled: names without backticks, and numbers as they are read. -/
def Token.Spellable : Token → Prop
  | .identifier name => '\x60' ∉ name.toList
  | .number digits => IsNumber digits.toList
  | .eof => False
  | _ => True

/-- What may stand behind a spelling. -/
inductive Separated : List Char → Prop where
  | nil : Separated []
  | space (chars : List Char) : Separated (' ' :: chars)

theorem Separated.head {rest : List Char} (separated : Separated rest) {holds : Char → Prop}
    (space : holds ' ') : ∀ char ∈ rest.head?, holds char := by
  cases separated with
  | nil => simp
  | space chars => simpa using space

theorem readName?_append {name : List Char} (plain : '\x60' ∉ name) (rest : List Char) :
    readName? (name ++ '\x60' :: rest) = some (name, rest) := by
  induction name with
  | nil => rw [List.nil_append, readName?, if_pos rfl]
  | cons char name ih =>
      rw [List.mem_cons, not_or] at plain
      rw [List.cons_append, readName?, if_neg (Ne.symm plain.1), ih plain.2]
      rfl

/-- A text whose quotes are doubled is read up to the quote behind it. -/
theorem readQuoted?_doubled {quote : Char} (chars : List Char) {rest : List Char}
    (ends : ∀ char ∈ rest.head?, char ≠ quote) :
    readQuoted? quote (doubled quote chars ++ quote :: rest) = some (chars, rest) := by
  induction chars with
  | nil =>
      cases rest with
      | nil => simp only [doubled, List.flatMap_nil, List.nil_append, readQuoted?, if_true]
      | cons next rest =>
          have differs : next ≠ quote := ends next rfl
          simp only [doubled, List.flatMap_nil, List.nil_append, readQuoted?, if_true,
            if_neg differs]
  | cons char chars ih =>
      rw [doubled, List.flatMap_cons, List.append_assoc, ← doubled]
      by_cases same : char = quote
      · subst same
        simp only [if_true, List.cons_append, List.nil_append, readQuoted?, ih, Option.map_some]
      · rw [if_neg same, List.singleton_append]
        unfold readQuoted?
        rw [if_neg same, ih, Option.map_some]

theorem readToken_of_startsWord {first : Char} {rest : List Char}
    (starts : startsWord first = true) :
    readToken first rest =
      .ok (wordToken (String.ofList (first :: rest.takeWhile continuesWord)),
        rest.dropWhile continuesWord) := by
  unfold readToken
  split
  case h_13 =>
    rw [if_neg, if_pos starts]
    rintro (rfl | rfl)
    · exact absurd starts (by decide)
    · exact absurd starts (by decide)
  all_goals exact absurd starts (by decide)

theorem exists_range_of_holds {ranges : Ranges} {code : Nat} (holds : ranges.holds code = true) :
    ∃ range ∈ ranges, range.1 ≤ code ∧ code ≤ range.2 := by
  induction ranges with
  | nil => cases holds
  | cons range rest ih =>
      simp only [Ranges.holds] at holds
      split at holds
      · cases holds
      · rename_i reached
        split at holds
        · rename_i within
          exact ⟨range, List.mem_cons_self, Nat.le_of_not_lt reached, within⟩
        · obtain ⟨other, member, inside⟩ := ih holds
          exact ⟨other, List.mem_cons_of_mem range member, inside⟩

/-- No blank is part of a word. -/
theorem not_isBlank_of_continuesWord {char : Char} (continues : continuesWord char = true) :
    isBlank char = false := by
  have apart : ∀ range ∈ blankRanges, ∀ offset < range.2 + 1 - range.1,
      alphabeticRanges.holds (range.1 + offset) = false ∧
        numericRanges.holds (range.1 + offset) = false ∧ range.1 + offset ≠ '_'.toNat := by
    decide +kernel
  cases blank : isBlank char with
  | false => rfl
  | true =>
      obtain ⟨range, member, low, high⟩ := exists_range_of_holds blank
      have separate := apart range member (char.toNat - range.1) (by omega)
      rw [Nat.add_sub_cancel' low] at separate
      have underscore : char ≠ '_' := fun same => separate.2.2 (congrArg Char.toNat same)
      simp [continuesWord, isAlphanumeric, isAlphabetic, isNumeric, separate.1, separate.2.1,
        underscore] at continues

theorem continuesWord_of_startsWord {char : Char} (starts : startsWord char = true) :
    continuesWord char = true := by
  simp only [startsWord, continuesWord, isAlphanumeric, Bool.or_eq_true] at starts ⊢
  exact starts.imp_left Or.inl

theorem startsWord_of_isLower {char : Char} (lower : char.isLower = true) :
    startsWord char = true := by
  have letters : ∀ offset < 26, alphabeticRanges.holds (97 + offset) = true := by decide
  obtain ⟨low, high⟩ : 97 ≤ char.toNat ∧ char.toNat ≤ 122 := by
    simpa [Char.isLower, UInt32.le_iff_toNat_le] using lower
  have letter := letters (char.toNat - 97) (by omega)
  rw [Nat.add_sub_cancel' low] at letter
  simp [startsWord, isAlphabetic, letter]

/-- The characters of a word: letters, digits and underscores, of which a word starts with no
digit. -/
structure IsBare (chars : List Char) : Prop where
  starts : chars.head?.any startsWord = true
  continues : ∀ char ∈ chars, continuesWord char = true

instance (chars : List Char) : Decidable (IsBare chars) :=
  decidable_of_iff (chars.head?.any startsWord = true ∧ chars.all continuesWord = true)
    ⟨fun both => ⟨both.1, List.all_eq_true.1 both.2⟩,
      fun bare => ⟨bare.starts, List.all_eq_true.2 bare.continues⟩⟩

theorem IsBare.exists_cons {chars : List Char} (bare : IsBare chars) :
    ∃ first others, chars = first :: others ∧ startsWord first = true := by
  have starts := bare.starts
  cases chars with
  | nil => cases starts
  | cons first others => exact ⟨first, others, rfl, starts⟩

theorem isBare_of_isLower {chars : List Char} (nonempty : chars ≠ [])
    (lower : chars.all Char.isLower = true) : IsBare chars := by
  have starts : ∀ char ∈ chars, startsWord char = true := by
    intro char inside
    exact startsWord_of_isLower (List.all_eq_true.1 lower char inside)
  obtain ⟨first, others, rfl⟩ := List.exists_cons_of_ne_nil nonempty
  refine ⟨starts first List.mem_cons_self, ?_⟩
  intro char inside
  exact continuesWord_of_startsWord (starts char inside)

/-- A word is read up to what separates it. -/
theorem readToken_bare {first : Char} {others rest : List Char} (bare : IsBare (first :: others))
    (separated : Separated rest) :
    readToken first (others ++ rest) =
      .ok (wordToken (String.ofList (first :: others)), rest) := by
  have continues : ∀ char ∈ others, continuesWord char = true := by
    intro char inside
    exact bare.continues char (List.mem_cons_of_mem first inside)
  have stops : ∀ char ∈ rest.head?, continuesWord char = false := separated.head (by decide)
  rw [readToken_of_startsWord bare.starts, takeWhile_append_of_head others stops,
    dropWhile_append_of_head others stops, List.takeWhile_eq_self_iff.2 continues,
    List.dropWhile_eq_nil_iff.2 continues, List.nil_append]

theorem readDigits_append {chars rest : List Char} (whole : readDigits chars = (chars, []))
    (separated : Separated rest) : readDigits (chars ++ rest) = (chars, rest) := by
  have stops : ∀ char ∈ rest.head?, isDigit char = false := separated.head (by decide)
  simp only [readDigits] at whole ⊢
  rw [takeWhile_append_of_head chars stops, dropWhile_append_of_head chars stops]
  cases behind : chars.dropWhile isDigit with
  | nil =>
      rw [behind] at whole
      have digits := congrArg Prod.fst whole
      cases separated <;> simpa using digits
  | cons next tail =>
      rw [behind] at whole
      by_cases point : next = '.'
      · subst point
        simp only [Prod.mk.injEq] at whole
        simp only [List.cons_append, takeWhile_append_of_head tail stops,
          dropWhile_append_of_head tail stops, whole.1, whole.2, List.nil_append]
      · -- Anything but a point would have been left over.
        simp [point] at whole

theorem not_startsWord_of_isDigit {char : Char} (digit : isDigit char = true) :
    startsWord char = false := by
  have plain : ∀ offset < 10, alphabeticRanges.holds (48 + offset) = false := by decide
  obtain ⟨offset, small, code⟩ := exists_code_of_isDigit digit
  have underscore : char ≠ '_' := by
    rintro rfl
    exact absurd digit (by decide)
  simp [startsWord, isAlphabetic, code, plain offset small, underscore]

theorem readToken_of_isNumber {first : Char} {others : List Char}
    (starts : isDigit first = true ∨ (first = '.' ∧ others.head?.any isDigit = true)) :
    readToken first others =
      .ok (.number (String.ofList (readDigits (first :: others)).1),
        (readDigits (first :: others)).2) := by
  unfold readToken
  split
  case h_13 =>
    have unquoted : ¬ (first = '\'' ∨ first = '"') := by
      rintro (rfl | rfl)
      · exact absurd starts (by simp [isDigit])
      · exact absurd starts (by simp [isDigit])
    have noWord : ¬ startsWord first = true := by
      rcases starts with digit | ⟨rfl, _⟩
      · simp [not_startsWord_of_isDigit digit]
      · decide
    rw [if_neg unquoted, if_neg noWord, if_pos starts]
  all_goals exact absurd starts (by simp [isDigit])

/-- A text that is read as one token up to what separates it; it starts with no blank. -/
def ReadAs (text : List Char) (token : Token) : Prop :=
  ∃ first others, text = first :: others ∧ isBlank first = false ∧
    ∀ rest, Separated rest → readToken first (others ++ rest) = .ok (token, rest)

theorem readAs_name {name : List Char} (plain : '\x60' ∉ name) :
    ReadAs ('\x60' :: (name ++ ['\x60'])) (.identifier (String.ofList name)) := by
  refine ⟨_, _, rfl, by decide, ?_⟩
  intro rest _
  simp only [readToken, List.append_assoc, List.singleton_append, readName?_append plain]

theorem readToken_quote {quote : Char} (isQuote : quote = '\'' ∨ quote = '"')
    {content rest after : List Char} (read : readQuoted? quote rest = some (content, after)) :
    readToken quote rest = .ok (.string (String.ofList content), after) := by
  rcases isQuote with rfl | rfl
  · rw [readToken, if_pos (.inl rfl), read] <;> decide
  · rw [readToken, if_pos (.inr rfl), read] <;> decide

theorem readAs_quoted {quote : Char} (isQuote : quote = '\'' ∨ quote = '"') (value : List Char) :
    ReadAs (quote :: (doubled quote value ++ [quote])) (.string (String.ofList value)) := by
  have visible : isBlank quote = false ∧ ' ' ≠ quote := by
    rcases isQuote with rfl | rfl <;> decide
  refine ⟨_, _, rfl, visible.1, ?_⟩
  intro rest separated
  rw [List.append_assoc, List.singleton_append,
    readToken_quote isQuote (readQuoted?_doubled value (separated.head visible.2))]

theorem readAs_number {digits : List Char} (number : IsNumber digits) :
    ReadAs digits (.number (String.ofList digits)) := by
  obtain ⟨⟨first, others, rfl, starts⟩, whole⟩ := number
  have visible : isBlank first = false := by
    rcases starts with digit | ⟨rfl, _⟩
    · exact not_isBlank_of_isDigit digit
    · decide
  refine ⟨first, others, rfl, visible, ?_⟩
  intro rest separated
  have starts' : isDigit first = true ∨
      (first = '.' ∧ (others ++ rest).head?.any isDigit = true) := by
    refine starts.imp_right (And.imp_right fun follows => ?_)
    cases others with
    | nil => cases follows
    | cons next others => exact follows
  rw [readToken_of_isNumber starts', ← List.cons_append, readDigits_append whole separated]

theorem readAs_bare {word : List Char} (bare : IsBare word) :
    ReadAs word (wordToken (String.ofList word)) := by
  obtain ⟨first, others, rfl, _⟩ := bare.exists_cons
  exact ⟨first, others, rfl, not_isBlank_of_continuesWord (bare.continues first List.mem_cons_self),
    fun _ separated => readToken_bare bare separated⟩

/-- A keyword in lower case is a word. -/
theorem readAs_keyword {word : List Char} {token : Token} (nonempty : word ≠ [])
    (lower : word.all Char.isLower = true) (keyword : wordToken (String.ofList word) = token) :
    ReadAs word token :=
  keyword ▸ readAs_bare (isBare_of_isLower nonempty lower)

/-- A spelling is read back. -/
theorem readAs_spelling {token : Token} (spellable : token.Spellable) :
    ReadAs token.spelling token := by
  cases token with
  | identifier name => simpa [Token.spelling] using readAs_name spellable
  | number digits => simpa [Token.spelling] using readAs_number spellable
  | string value => simpa [Token.spelling] using readAs_quoted (.inl rfl) value.toList
  | and => exact readAs_keyword (by decide) rfl (by decide +kernel)
  | or => exact readAs_keyword (by decide) rfl (by decide +kernel)
  | not => exact readAs_keyword (by decide) rfl (by decide +kernel)
  | is => exact readAs_keyword (by decide) rfl (by decide +kernel)
  | null => exact readAs_keyword (by decide) rfl (by decide +kernel)
  | true => exact readAs_keyword (by decide) rfl (by decide +kernel)
  | false => exact readAs_keyword (by decide) rfl (by decide +kernel)
  | eof => exact absurd spellable id
  | _ =>
      refine ⟨_, _, rfl, by decide, ?_⟩
      rintro _ (_ | _) <;> rfl

theorem tokenizeChars_cons {char : Char} {rest after : List Char} {token : Token}
    {tokens : List Token} (visible : isBlank char = false)
    (read : readToken char rest = .ok (token, after)) (others : tokenizeChars after = .ok tokens) :
    tokenizeChars (char :: rest) = .ok (token :: tokens) := by
  rw [tokenizeChars, if_neg (by simp [visible])]
  split
  · rename_i failed
    rw [read] at failed
    cases failed
  · rename_i found
    rw [read] at found
    cases found
    rw [others]

/-- Texts that are read as one token each are read one after the other, if single spaces separate
them. -/
theorem tokenizeChars_intercalate {texts : List (List Char × Token)}
    (reads : ∀ text ∈ texts, ReadAs text.1 text.2) :
    tokenizeChars ([' '].intercalate (texts.map Prod.fst)) =
      .ok (texts.map Prod.snd ++ [.eof]) := by
  induction texts with
  | nil => rw [List.map_nil, List.intercalate_nil, tokenizeChars, List.map_nil, List.nil_append]
  | cons text texts ih =>
      have tokenized := ih fun other member => reads other (List.mem_cons_of_mem text member)
      obtain ⟨rest, shape, separated, behind⟩ : ∃ rest,
          [' '].intercalate ((text :: texts).map Prod.fst) = text.1 ++ rest ∧ Separated rest ∧
            tokenizeChars rest = .ok (texts.map Prod.snd ++ [.eof]) := by
        cases texts with
        | nil => exact ⟨[], by simp, .nil, tokenized⟩
        | cons next texts =>
            refine ⟨' ' :: [' '].intercalate ((next :: texts).map Prod.fst), by simp, .space _, ?_⟩
            rw [tokenizeChars, if_pos (by decide), tokenized]
      obtain ⟨first, others, spelled, visible, read⟩ := reads text List.mem_cons_self
      rw [shape, spelled, List.cons_append]
      exact tokenizeChars_cons visible (read rest separated) behind

/-- Spelled tokens are read back. -/
theorem tokenizeChars_spell {tokens : List Token}
    (spellable : ∀ token ∈ tokens, token.Spellable) :
    tokenizeChars (spell tokens) = .ok (tokens ++ [.eof]) := by
  have reads : ∀ text ∈ tokens.map fun token => (token.spelling, token), ReadAs text.1 text.2 := by
    simpa using fun token member => readAs_spelling (spellable token member)
  simpa [spell, Function.comp_def] using tokenizeChars_intercalate reads

end TableFlow.Formula
