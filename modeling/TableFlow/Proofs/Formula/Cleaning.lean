import TableFlow.Proofs.Formula.Printer
import TableFlow.Proofs.Formula.References
import TableFlow.Proofs.Formula.Rows

/-!
# Cleaning formulas that can be read

A formula that can be read without cleaning has no bracket outside its names and strings.  Cleaning
keeps such a formula as it is while it finds the strings where the reader finds them.  It does not
know names in backticks: a bracket in one is taken for a reference, and a quote in one for the start
of a string, after which the real strings are open to changes.

Every change takes a bracket out of a name or a string of the tree, so that the tree is another one
or none.

Main statement: `parse_clean_iff`.
-/

namespace TableFlow.Formula

open TableFlow.Text
open TableFlow.Number

/-- A name without quotes and opening brackets. -/
def IsPlainName (name : String) : Prop :=
  ∀ char ∈ name.toList, IsInert char

theorem isInert_of_isBlank {char : Char} (blank : isBlank char = true) : IsInert char := by
  refine ⟨?_, ?_, ?_⟩ <;>
  · rintro rfl
    exact absurd blank (by decide)

/-- Cleaning leaves the lexemes of a plain name alone. -/
theorem Lexeme.untouched_of_isPlainName {text : List Char} {token : Token}
    (lexeme : Lexeme text token) (plain : ∀ name, token = .identifier name → IsPlainName name) :
    Untouched text := by
  apply lexeme.untouched
  intro quoted char member
  cases lexeme with
  | symbol listed => exact isInert_symbol _ listed char member
  | keyword bare known => exact isInert_of_continuesWord (bare.continues char member)
  | identifier bare unknown => exact isInert_of_continuesWord (bare.continues char member)
  | number numeral => exact numeral.isInert char member
  | string isQuote value =>
      cases Option.some.inj quoted
      exact absurd isQuote (by decide)
  | @name name absent =>
      have inside := plain _ rfl
      rw [IsPlainName, String.toList_ofList] at inside
      rcases List.mem_cons.1 member with rfl | behind
      · decide
      · rcases List.mem_append.1 behind with inName | last
        · exact inside char inName
        · rw [List.mem_singleton.1 last]
          decide

/-- Cleaning leaves a text alone whose names are plain. -/
theorem Scans.cleanChars_eq_self {chars : List Char} {tokens : List Token}
    (scans : Scans chars tokens) (plain : ∀ name, .identifier name ∈ tokens → IsPlainName name) :
    cleanChars chars = chars := by
  induction scans with
  | nil => rw [cleanChars]
  | blank blank rest ih => rw [cleanChars_cons (isInert_of_isBlank blank), ih plain]
  | lexeme lexeme rest ih =>
      have untouched := lexeme.untouched_of_isPlainName
        fun name same => plain name (same ▸ List.mem_cons_self)
      rw [untouched, ih fun name member => plain name (List.mem_cons_of_mem _ member)]

/-- The characters of the name or the string that a token carries. -/
def Token.label : Token → List Char
  | .identifier name => name.toList
  | .string value => value.toList
  | _ => []

/-- The characters of the names and the strings of a tree, from left to right. -/
def Expr.label : Expr → List Char
  | .literal (.text value) => value.toList
  | .literal _ => []
  | .column name => name.toList
  | .binary _ left right => left.label ++ right.label
  | .unary _ operand => operand.label

theorem count_doubled {quote char : Char} (differs : quote ≠ char) (value : List Char) :
    (doubled quote value).count char = value.count char := by
  induction value with
  | nil => rfl
  | cons first value ih =>
      rw [doubled, List.flatMap_cons, List.count_append, ← doubled, ih]
      split
      · rename_i same
        subst same
        simp [List.count_cons_of_ne differs]
      · rw [← List.count_append, List.singleton_append]

theorem count_bracket_of_isInert {text : List Char} (inert : ∀ char ∈ text, IsInert char) :
    text.count '[' = 0 :=
  List.count_eq_zero.2 fun inside => (inert '[' inside).2.2 rfl

theorem label_of_keyword? {word : String} {token : Token} (known : keyword? word = some token) :
    token.label = [] := by
  unfold keyword? at known
  split at known <;> cases known <;> rfl

/-- The brackets of a lexeme are those of the name or the string it carries. -/
theorem Lexeme.count_bracket {text : List Char} {token : Token} (lexeme : Lexeme text token) :
    text.count '[' = token.label.count '[' := by
  cases lexeme with
  | symbol listed =>
      have unlabelled : symbols.all (fun symbol => symbol.2.label.isEmpty) = true := by decide
      have none : token.label = [] := by simpa using List.all_eq_true.1 unlabelled _ listed
      rw [count_bracket_of_isInert (isInert_symbol _ listed), none, List.count_nil]
  | keyword bare known =>
      rw [label_of_keyword? known, List.count_nil]
      exact count_bracket_of_isInert fun char member =>
        isInert_of_continuesWord (bare.continues char member)
  | identifier bare unknown => rw [Token.label, String.toList_ofList]
  | number numeral => exact count_bracket_of_isInert numeral.isInert
  | @string quote isQuote value =>
      have differs : quote ≠ '[' := by
        rcases isQuote with rfl | rfl <;> decide
      rw [Token.label, String.toList_ofList, List.count_cons_of_ne differs, List.count_append,
        count_doubled differs, List.count_singleton, if_neg (by simpa using differs), Nat.add_zero]
  | name absent =>
      rw [Token.label, String.toList_ofList, List.count_cons_of_ne (by decide), List.count_append]
      rfl

theorem Scans.count_bracket {chars : List Char} {tokens : List Token}
    (scans : Scans chars tokens) :
    chars.count '[' = (tokens.flatMap Token.label).count '[' := by
  induction scans with
  | nil => rfl
  | blank blank rest ih =>
      rw [List.count_cons_of_ne (isInert_of_isBlank blank).2.2, ih]
  | lexeme lexeme rest ih =>
      rw [List.count_append, ih, lexeme.count_bracket, List.flatMap_cons, List.count_append]

theorem label_of_numberCell? {digits : String} {cell : Cell}
    (value : numberCell? digits = some cell) :
    (Expr.literal cell).label = [] := by
  unfold numberCell? at value
  split at value
  · cases value
    rfl
  · obtain ⟨float, _, rfl⟩ := Option.map_eq_some_iff.1 value
    rfl

/-- The names and the strings of a tree stand in its tokens. -/
theorem Derives.label_eq {level : Level} {tokens : List Token} {expr : Expr}
    (derives : Derives level tokens expr) : tokens.flatMap Token.label = expr.label := by
  induction derives with
  | first operand ih => exact ih
  | next chain joins operand chainIH operandIH =>
      cases joins <;> simp [chainIH, operandIH, Token.label, Expr.label]
  | not operand ih => simpa [Token.label, Expr.label] using ih
  | plain comparison ih => exact ih
  | sum sum ih => exact ih
  | isNull sum ih => simpa [Token.label, Expr.label] using ih
  | isNotNull sum ih => simpa [Token.label, Expr.label] using ih
  | compare leftSum compares rightSum leftIH rightIH =>
      cases compares <;> simp [leftIH, rightIH, Token.label, Expr.label]
  | signed signs operand ih => cases signs <;> simpa [Token.label, Expr.label] using ih
  | unsigned term ih => exact ih
  | atom stands =>
      cases stands with
      | number value =>
          rw [label_of_numberCell? value]
          rfl
      | _ => simp [Token.label, Expr.label]
  | parens inner ih => simpa [Token.label] using ih

/-- Cleaning changes a text only by taking brackets out of it. -/
theorem cleanChars_eq_self_or_count_lt (chars : List Char) :
    cleanChars chars = chars ∨ (cleanChars chars).count '[' < chars.count '[' := by
  fun_induction cleanChars chars with
  | case1 => exact .inl rfl
  | case2 => exact .inl rfl
  | case3 char rest isQuote close after found shorter ih =>
      have whole : rest.takeWhile (· != char) ++ close :: after = rest := by
        rw [← found, List.takeWhile_append_dropWhile]
      refine ih.imp ?_ ?_
      · intro same
        rw [same, List.cons_append, whole]
      · intro fewer
        have split := congrArg (List.count '[') whole
        simp only [List.cons_append, List.count_cons, List.count_append] at split ⊢
        omega
  | case4 => exact .inl rfl
  | case5 rest close after found shorter noQuote ih =>
      -- The opening bracket goes, so whatever happens behind it there are fewer.
      have whole : rest.takeWhile (· != ']') ++ close :: after = rest := by
        rw [← found, List.takeWhile_append_dropWhile]
      have behind : (cleanChars after).count '[' ≤ after.count '[' := by
        rcases ih with same | fewer
        · rw [same]
        · exact Nat.le_of_lt fewer
      have split := congrArg (List.count '[') whole
      right
      rw [List.cons_append, List.count_cons_of_ne (by decide), List.count_append,
        List.count_cons_of_ne (by decide), List.count_cons_self]
      rw [List.count_append, List.count_cons] at split
      omega
  | case6 char rest noQuote noBracket ih =>
      refine ih.imp ?_ ?_
      · intro same
        rw [same]
      · intro fewer
        rw [List.count_cons_of_ne noBracket, List.count_cons_of_ne noBracket]
        exact fewer

/-- The names in the tokens of a tree are its columns. -/
theorem Derives.mem_columns {level : Level} {tokens : List Token} {expr : Expr} {name : String}
    (derives : Derives level tokens expr) (inside : .identifier name ∈ tokens) :
    name ∈ expr.columns := by
  induction derives with
  | first operand ih => exact ih inside
  | @next kind front back token op left right chain joins operand chainIH operandIH =>
      have sides : .identifier name ∈ front ∨ .identifier name ∈ back := by
        cases joins <;> simpa using inside
      exact Expr.mem_columns_binary.2 (sides.imp chainIH operandIH)
  | not operand ih => exact ih (by simpa using inside)
  | plain comparison ih => exact ih inside
  | sum sum ih => exact ih inside
  | isNull sum ih => exact ih (by simpa using inside)
  | isNotNull sum ih => exact ih (by simpa using inside)
  | @compare front back token op left right leftSum compares rightSum leftIH rightIH =>
      have sides : .identifier name ∈ front ∨ .identifier name ∈ back := by
        cases compares <;> simpa using inside
      exact Expr.mem_columns_binary.2 (sides.imp leftIH rightIH)
  | signed signs operand ih => cases signs <;> exact ih (by simpa using inside)
  | unsigned term ih => exact ih inside
  | atom stands => cases stands <;> simp_all
  | parens inner ih => exact ih (by simpa using inside)

/-- A text with a tree has tokens that derive it. -/
theorem exists_tokens_of_parse {source : String} {expr : Expr} (parsed : parse source = .ok expr) :
    ∃ tokens : List Token, tokenizeChars source.toList = .ok (tokens ++ [.eof]) ∧
      Derives (.chain .or) tokens expr := by
  have whole := parsed
  unfold parse tokenize at parsed
  cases read : tokenizeChars source.toList with
  | error reason =>
      rw [read] at parsed
      cases parsed
  | ok all =>
      obtain ⟨tokens, rfl, _⟩ := lexed_of_tokenizeChars read
      refine ⟨tokens, rfl, (parse_of_tokenize ?_).1 whole⟩
      simp only [tokenize, read]

/-- A text has as many brackets as the names and the strings of its tree. -/
theorem count_bracket_of_parse {source : String} {expr : Expr} (parsed : parse source = .ok expr) :
    source.toList.count '[' = expr.label.count '[' := by
  obtain ⟨tokens, read, derives⟩ := exists_tokens_of_parse parsed
  obtain ⟨others, same, scans⟩ := scans_of_tokenizeChars read
  cases List.append_cancel_right same
  rw [scans.count_bracket, derives.label_eq]

theorem parse_of_tokenizeChars {chars : List Char} {tokens : List Token} {expr : Expr}
    (read : tokenizeChars chars = .ok (tokens ++ [.eof]))
    (derives : Derives (.chain .or) tokens expr) :
    parse (String.ofList chars) = .ok expr := by
  apply (parse_of_tokenize _).2 derives
  simp only [tokenize, String.toList_ofList, read]

section Cleaned

variable {source : String} {expr : Expr} (parsed : parse source = .ok expr)

include parsed

/-- Trimming a formula does not change its tree. -/
theorem parse_trim : parse (trim source) = .ok expr := by
  obtain ⟨tokens, read, derives⟩ := exists_tokens_of_parse parsed
  exact parse_of_tokenizeChars (tokenizeChars_trimChars read) derives

/-- Cleaning keeps the tree of a formula only if it does nothing but trim it: every change would
take a bracket out of a name or a string of the tree. -/
theorem parse_clean_eq_ok_iff : parse (clean source) = .ok expr ↔ clean source = trim source := by
  constructor
  · intro cleaned
    have before := count_bracket_of_parse (parse_trim parsed)
    have after := count_bracket_of_parse cleaned
    rw [trim, String.toList_ofList] at before
    rw [clean, String.toList_ofList] at after
    rcases cleanChars_eq_self_or_count_lt (trimChars source.toList) with same | fewer
    · rw [clean, same, trim]
    · omega
  · intro same
    rw [same]
    exact parse_trim parsed

/-- Cleaning a formula whose columns have plain names only trims it. -/
theorem clean_eq_trim (plain : ∀ name ∈ expr.columns, IsPlainName name) :
    clean source = trim source := by
  obtain ⟨tokens, read, derives⟩ := exists_tokens_of_parse parsed
  obtain ⟨others, same, scans⟩ := scans_of_tokenizeChars (tokenizeChars_trimChars read)
  cases List.append_cancel_right same
  have kept := scans.cleanChars_eq_self fun name inside => plain name (derives.mem_columns inside)
  rw [clean, kept, trim]

end Cleaned

/-- Cleaning keeps the tree of a formula exactly if it changes nothing but the blanks around it, and
this is so for every formula whose columns have neither quotes nor opening brackets in their
names. -/
theorem parse_clean_iff {source : String} {expr : Expr} (parsed : parse source = .ok expr) :
    (parse (clean source) = .ok expr ↔ clean source = trim source) ∧
      ((∀ name ∈ expr.columns, IsPlainName name) → parse (clean source) = .ok expr) := by
  refine ⟨parse_clean_eq_ok_iff parsed, ?_⟩
  intro plain
  exact (parse_clean_eq_ok_iff parsed).2 (clean_eq_trim parsed plain)

/-- A comparison of a column in backticks with a string that holds brackets, among blanks. -/
def shelfTest : String :=
  "\t\x60unit p\x60 != 'a[1]' "

def shelfTestTree : Expr :=
  .binary .ne (.column "unit p") (.literal (.text "a[1]"))

theorem parse_shelfTest : parse shelfTest = .ok shelfTestTree := by
  have lexed : tokenize shelfTest =
      .ok ([.identifier "unit p", .notEqual, .string "a[1]"] ++ [.eof]) := by
    decide +kernel
  have left : Derives (.chain .sum) [.identifier "unit p"] (.column "unit p") :=
    .first (.first (.unsigned (.atom (.identifier _))))
  have right : Derives (.chain .sum) [.string "a[1]"] (.literal (.text "a[1]")) :=
    .first (.first (.unsigned (.atom (.string _))))
  exact (parse_of_tokenize lexed).2 (.first (.first (.plain (.compare left .ne right))))

/-- Blanks in a quoted name and brackets in a string survive cleaning. -/
theorem parse_clean_iff_shelfTest :
    parse shelfTest = .ok shelfTestTree ∧ (∀ name ∈ shelfTestTree.columns, IsPlainName name) ∧
      parse (clean shelfTest) = .ok shelfTestTree := by
  have plain : ∀ name ∈ shelfTestTree.columns, IsPlainName name := by
    have inert : "unit p".toList.all (fun char => decide (IsInert char)) = true := by decide +kernel
    intro name inside
    have same : name = "unit p" := by simpa [shelfTestTree] using inside
    rw [same]
    simpa [IsPlainName] using inert
  exact ⟨parse_shelfTest, plain, (parse_clean_iff parse_shelfTest).2 plain⟩

/-- A column with a quote in its name, before a string that holds brackets. -/
def quotedSum : String :=
  "\x60it's\x60 + 'a[1]'"

def quotedSumTree : Expr :=
  .binary .add (.column "it's") (.literal (.text "a[1]"))

theorem parse_quotedSum : parse quotedSum = .ok quotedSumTree := by
  have lexed : tokenize quotedSum =
      .ok ([.identifier "it's", .plus, .string "a[1]"] ++ [.eof]) := by
    decide +kernel
  have left : Derives (.chain .sum) [.identifier "it's"] (.column "it's") :=
    .first (.first (.unsigned (.atom (.identifier _))))
  have right : Derives (.chain .product) [.string "a[1]"] (.literal (.text "a[1]")) :=
    .first (.unsigned (.atom (.string _)))
  exact (parse_of_tokenize lexed).2 (.first (.first (.plain (.sum (.next left .add right)))))

/-- The quote in the name hides the quotes of the string, so that cleaning changes the string. -/
theorem parse_clean_quotedSum :
    parse quotedSum = .ok quotedSumTree ∧ clean quotedSum = "\x60it's\x60 + 'a\x601\x60'" ∧
      parse (clean quotedSum) ≠ .ok quotedSumTree := by
  have cleaned : clean quotedSum = "\x60it's\x60 + 'a\x601\x60'" := by
    decide +kernel
  have changed : clean quotedSum ≠ trim quotedSum := by
    decide +kernel
  refine ⟨parse_quotedSum, cleaned, ?_⟩
  intro kept
  exact changed ((parse_clean_eq_ok_iff parse_quotedSum).1 kept)

end TableFlow.Formula
