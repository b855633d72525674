import TableFlow.Proofs.Condition.RoundTrip
import TableFlow.Proofs.Formula.Parser
import TableFlow.Proofs.Formula.Spelling

/-!
# Printed formulas

A tree is printed with parentheses only around operands that bind more loosely than their place asks
for.  The tokens then derive the tree, and no tokens that derive it are fewer.

Main statement: `Expr.parse_print`.
-/

namespace TableFlow.Formula

open TableFlow.Number

namespace BinaryOp

/-- The token of an operator with two operands. -/
def token : BinaryOp → Token
  | .add => .plus
  | .sub => .minus
  | .mul => .star
  | .div => .slash
  | .mod => .percent
  | .eq => .equal
  | .ne => .notEqual
  | .lt => .less
  | .le => .lessEqual
  | .gt => .greater
  | .ge => .greaterEqual
  | .and => .and
  | .or => .or

/-- The level on which an operator stands. -/
def level : BinaryOp → Level
  | .or => .chain .or
  | .and => .chain .and
  | .add | .sub => .chain .sum
  | .mul | .div | .mod => .chain .product
  | .eq | .ne | .lt | .le | .gt | .ge => .comparison

end BinaryOp

/-- The level that the left operand has at least; chains lean to the left. -/
def Level.left : Level → Level
  | .chain kind => .chain kind
  | _ => .chain .sum

/-- The level that the right operand has at least. -/
def Level.right : Level → Level
  | .chain kind => kind.operand
  | _ => .chain .sum

namespace UnaryOp

/-- The tokens in front of the operand. -/
def before : UnaryOp → List Token
  | .not => [.not]
  | .plus => [.plus]
  | .minus => [.minus]
  | .isNull | .isNotNull => []

/-- The tokens behind the operand. -/
def after : UnaryOp → List Token
  | .isNull => [.is, .null]
  | .isNotNull => [.is, .not, .null]
  | .not | .plus | .minus => []

/-- The level on which an operator stands. -/
def level : UnaryOp → Level
  | .not => .negation
  | .isNull | .isNotNull => .comparison
  | .plus | .minus => .sign

/-- The level that the operand has at least. -/
def operand : UnaryOp → Level
  | .not => .negation
  | .isNull | .isNotNull => .chain .sum
  | .plus | .minus => .sign

end UnaryOp

/-- The token of a literal.  Floats and timestamps have no notation, and stand as nulls. -/
def literalToken : Cell → Token
  | .boolean true => .true
  | .boolean false => .false
  | .integer value => .number (intText value.toInt)
  | .text value => .string value
  | _ => .null

/-- The tokens of a formula of one level in a place of another: in parentheses where it binds too
loosely. -/
def enclosed (place own : Level) (tokens : List Token) : List Token :=
  if own.strength < place.strength then .leftParen :: tokens ++ [.rightParen] else tokens

namespace Expr

/-- The level of the outermost operator. -/
def level : Expr → Level
  | .literal _ | .column _ => .term
  | .binary op _ _ => op.level
  | .unary op _ => op.level

/-- The tokens of a tree. -/
def tokens : Expr → List Token
  | .literal cell => [literalToken cell]
  | .column name => [.identifier name]
  | .binary op left right =>
      enclosed op.level.left left.level left.tokens ++
        op.token :: enclosed op.level.right right.level right.tokens
  | .unary op operand =>
      op.before ++ enclosed op.operand operand.level operand.tokens ++ op.after

/-- The tokens of a tree in a place of a level. -/
def tokensAt (place : Level) (expr : Expr) : List Token :=
  enclosed place expr.level expr.tokens

/-- A tree as a text. -/
def print (expr : Expr) : String :=
  String.ofList (spell expr.tokens)

end Expr

/-- A literal with a notation. -/
def Plain : Cell → Prop
  | .null | .boolean _ | .text _ => True
  | .integer value => 0 ≤ value.toInt
  | _ => False

/-- A tree whose literals have notations and whose columns have no backticks in their names. -/
def Expr.Printable : Expr → Prop
  | .literal cell => Plain cell
  | .column name => '\x60' ∉ name.toList
  | .binary _ left right => left.Printable ∧ right.Printable
  | .unary _ operand => operand.Printable

instance Plain.decidable : (cell : Cell) → Decidable (Plain cell)
  | .null => inferInstanceAs (Decidable True)
  | .boolean _ => inferInstanceAs (Decidable True)
  | .text _ => inferInstanceAs (Decidable True)
  | .integer value => inferInstanceAs (Decidable (0 ≤ value.toInt))
  | .float _ => inferInstanceAs (Decidable False)
  | .timestamp _ => inferInstanceAs (Decidable False)

instance Expr.Printable.decidable : (expr : Expr) → Decidable expr.Printable
  | .literal cell => inferInstanceAs (Decidable (Plain cell))
  | .column name => inferInstanceAs (Decidable ('\x60' ∉ name.toList))
  | .binary _ left right =>
      have := decidable left
      have := decidable right
      inferInstanceAs (Decidable (left.Printable ∧ right.Printable))
  | .unary _ operand => decidable operand

/-- The next level that binds more tightly. -/
def Level.tighter : Level → Level
  | .chain kind => kind.operand
  | .negation => .comparison
  | .comparison => .chain .sum
  | .sign | .term => .term

theorem Level.strength_tighter {level : Level} (loose : level.strength < 8) :
    level.tighter.strength = level.strength + 1 := by
  cases level with
  | chain kind => cases kind <;> rfl
  | term => exact absurd loose (by decide)
  | _ => rfl

theorem Level.strength_le (level : Level) : level.strength ≤ 8 := by
  cases level with
  | chain kind => cases kind <;> decide
  | _ => decide

theorem Level.strength_pos (level : Level) : 1 ≤ level.strength := by
  cases level with
  | chain kind => cases kind <;> decide
  | _ => decide

def Level.ofStrength : Nat → Level
  | 1 => .chain .or
  | 2 => .chain .and
  | 3 => .negation
  | 4 => .comparison
  | 5 => .chain .sum
  | 6 => .chain .product
  | 7 => .sign
  | _ => .term

theorem Level.ofStrength_strength (level : Level) : ofStrength level.strength = level := by
  cases level with
  | chain kind => cases kind <;> rfl
  | _ => rfl

theorem Derives.ofTighter {level : Level} {tokens : List Token} {expr : Expr}
    (derives : Derives level.tighter tokens expr) : Derives level tokens expr := by
  cases level with
  | chain kind => exact .first derives
  | negation => exact .plain derives
  | comparison => exact .sum derives
  | sign => exact .unsigned derives
  | term => exact derives

/-- A formula of a level is one of every looser level. -/
theorem Derives.loosen {tight loose : Level} {tokens : List Token} {expr : Expr}
    (derives : Derives tight tokens expr) (le : loose.strength ≤ tight.strength) :
    Derives loose tokens expr := by
  -- The gap between the levels shrinks as the looser one is tightened.
  induction gap : tight.strength - loose.strength generalizing loose with
  | zero =>
      have same : loose.strength = tight.strength := by omega
      rw [← Level.ofStrength_strength loose, same, Level.ofStrength_strength]
      exact derives
  | succ gap ih =>
      have bound := tight.strength_le
      have next : loose.tighter.strength = loose.strength + 1 :=
        Level.strength_tighter (by omega)
      exact .ofTighter (ih (by omega) (by omega))

/-! ## The tokens derive the tree -/

theorem derives_enclosed {place own : Level} {tokens : List Token} {expr : Expr}
    (derives : Derives own tokens expr) : Derives place (enclosed place own tokens) expr := by
  unfold enclosed
  split
  · have inner : Derives (.chain .or) tokens expr := derives.loosen own.strength_pos
    exact (Derives.parens inner).loosen place.strength_le
  · rename_i tight
    exact derives.loosen (Nat.le_of_not_lt tight)

theorem toList_intText {value : Int} (nonnegative : 0 ≤ value) :
    (intText value).toList = Nat.toDigits 10 value.toNat := by
  cases value with
  | ofNat magnitude => exact String.toList_ofList
  | negSucc magnitude => exact absurd nonnegative (by simp)

theorem numberCell?_intText (value : Int64) :
    numberCell? (intText value.toInt) = some (.integer value) := by
  unfold numberCell?
  rw [readWord?_intText, word?_toInt]

theorem stands_literalToken {cell : Cell} (plain : Plain cell) :
    Stands (literalToken cell) (.literal cell) := by
  cases cell with
  | null => exact .null
  | boolean value => cases value <;> constructor
  | integer value => exact .number (numberCell?_intText value)
  | text value => exact .string value
  | float value => exact absurd plain id
  | timestamp value => exact absurd plain id

theorem derives_binary (op : BinaryOp) {front back : List Token} {left right : Expr}
    (leftDerives : Derives op.level.left front left)
    (rightDerives : Derives op.level.right back right) :
    Derives op.level (front ++ op.token :: back) (.binary op left right) := by
  cases op with
  | or => exact .next leftDerives .or rightDerives
  | and => exact .next leftDerives .and rightDerives
  | add => exact .next leftDerives .add rightDerives
  | sub => exact .next leftDerives .sub rightDerives
  | mul => exact .next leftDerives .mul rightDerives
  | div => exact .next leftDerives .div rightDerives
  | mod => exact .next leftDerives .mod rightDerives
  | _ => exact .compare leftDerives (by constructor) rightDerives

theorem derives_unary (op : UnaryOp) {tokens : List Token} {operand : Expr}
    (derives : Derives op.operand tokens operand) :
    Derives op.level (op.before ++ tokens ++ op.after) (.unary op operand) := by
  cases op with
  | not =>
      rw [UnaryOp.after, List.append_nil]
      exact .not derives
  | isNull => exact .isNull derives
  | isNotNull => exact .isNotNull derives
  | plus =>
      rw [UnaryOp.after, List.append_nil]
      exact .signed .plus derives
  | minus =>
      rw [UnaryOp.after, List.append_nil]
      exact .signed .minus derives

theorem Expr.derives_tokens {expr : Expr} (printable : expr.Printable) :
    Derives expr.level expr.tokens expr := by
  induction expr with
  | literal cell => exact .atom (stands_literalToken printable)
  | column name => exact .atom (.identifier name)
  | binary op left right leftIH rightIH =>
      exact derives_binary op (derives_enclosed (leftIH printable.1))
        (derives_enclosed (rightIH printable.2))
  | unary op operand ih => exact derives_unary op (derives_enclosed (ih printable))

theorem length_enclosed (place own : Level) (tokens : List Token) :
    (enclosed place own tokens).length =
      tokens.length + if own.strength < place.strength then 2 else 0 := by
  unfold enclosed
  split <;> simp

theorem Expr.length_tokensAt_le {loose tight : Level} (expr : Expr)
    (le : loose.strength ≤ tight.strength) :
    (expr.tokensAt loose).length ≤ (expr.tokensAt tight).length := by
  simp only [Expr.tokensAt, length_enclosed]
  split <;> split <;> omega

theorem Expr.tokensAt_level (expr : Expr) : expr.tokensAt expr.level = expr.tokens :=
  if_neg (Nat.lt_irrefl _)

theorem Expr.length_binary_le (op : BinaryOp) {left right : Expr} {leftBound rightBound : Nat}
    (leftLe : (left.tokensAt op.level.left).length ≤ leftBound)
    (rightLe : (right.tokensAt op.level.right).length ≤ rightBound) :
    ((Expr.binary op left right).tokensAt op.level).length ≤ leftBound + (rightBound + 1) := by
  have own : (Expr.binary op left right).tokensAt op.level =
      left.tokensAt op.level.left ++ op.token :: right.tokensAt op.level.right :=
    Expr.tokensAt_level _
  rw [own, List.length_append, List.length_cons]
  omega

theorem Expr.length_unary_le (op : UnaryOp) {operand : Expr} {bound : Nat}
    (le : (operand.tokensAt op.operand).length ≤ bound) :
    ((Expr.unary op operand).tokensAt op.level).length ≤
      bound + (op.before.length + op.after.length) := by
  have own : (Expr.unary op operand).tokensAt op.level =
      op.before ++ operand.tokensAt op.operand ++ op.after :=
    Expr.tokensAt_level _
  rw [own, List.length_append, List.length_append]
  omega

/-- The printed tokens are the fewest that derive the tree. -/
theorem Derives.length_tokensAt_le {level : Level} {tokens : List Token} {expr : Expr}
    (derives : Derives level tokens expr) : (expr.tokensAt level).length ≤ tokens.length := by
  induction derives with
  | @first kind tokens expr operand ih =>
      exact Nat.le_trans (expr.length_tokensAt_le (Nat.le_of_lt kind.strength_lt_operand)) ih
  | next chain joins operand chainIH operandIH =>
      rw [List.length_append, List.length_cons]
      cases joins <;> exact Expr.length_binary_le _ chainIH operandIH
  | not operand ih => exact Expr.length_unary_le .not ih
  | @plain tokens expr comparison ih =>
      exact Nat.le_trans (expr.length_tokensAt_le (by decide)) ih
  | @sum tokens expr sum ih => exact Nat.le_trans (expr.length_tokensAt_le (by decide)) ih
  | isNull sum ih =>
      rw [List.length_append]
      exact Expr.length_unary_le .isNull ih
  | isNotNull sum ih =>
      rw [List.length_append]
      exact Expr.length_unary_le .isNotNull ih
  | compare leftSum compares rightSum leftIH rightIH =>
      rw [List.length_append, List.length_cons]
      cases compares <;> exact Expr.length_binary_le _ leftIH rightIH
  | signed signs operand ih => cases signs <;> exact Expr.length_unary_le _ ih
  | @unsigned tokens expr term ih => exact Nat.le_trans (expr.length_tokensAt_le (by decide)) ih
  | atom stands => cases stands <;> exact Nat.le_refl 1
  | @parens tokens expr inner ih =>
      have least : (expr.tokensAt .term).length ≤ (expr.tokensAt (.chain .or)).length + 2 := by
        simp only [Expr.tokensAt, length_enclosed]
        split <;> split <;> omega
      simp only [List.length_append, List.length_cons, List.length_nil]
      omega

theorem isNumber_toDigits (value : Nat) : IsNumber (Nat.toDigits 10 value) := by
  have digits := List.all_eq_true.1 (all_isDigit_toDigits value)
  obtain ⟨first, rest, shape, digit⟩ := exists_toDigits_cons value
  refine ⟨⟨first, rest, shape, .inl digit⟩, ?_⟩
  rw [readDigits, List.takeWhile_eq_self_iff.2 digits, List.dropWhile_eq_nil_iff.2 digits]

theorem spellable_literalToken {cell : Cell} (plain : Plain cell) :
    (literalToken cell).Spellable := by
  cases cell with
  | integer value =>
      show IsNumber (intText value.toInt).toList
      rw [toList_intText plain]
      exact isNumber_toDigits _
  | boolean value => cases value <;> trivial
  | _ => trivial

theorem spellable_enclosed {place own : Level} {tokens : List Token}
    (spellable : ∀ token ∈ tokens, token.Spellable) :
    ∀ token ∈ enclosed place own tokens, token.Spellable := by
  unfold enclosed
  split
  · simp only [List.cons_append, List.forall_mem_cons, List.forall_mem_append]
    exact ⟨trivial, spellable, trivial, List.forall_mem_nil _⟩
  · exact spellable

theorem Expr.spellable_tokens {expr : Expr} (printable : expr.Printable) :
    ∀ token ∈ expr.tokens, token.Spellable := by
  induction expr with
  | literal cell => exact List.forall_mem_singleton.2 (spellable_literalToken printable)
  | column name => exact List.forall_mem_singleton.2 printable
  | binary op left right leftIH rightIH =>
      have symbol : op.token.Spellable := by cases op <;> trivial
      exact List.forall_mem_append.2 ⟨spellable_enclosed (leftIH printable.1),
        List.forall_mem_cons.2 ⟨symbol, spellable_enclosed (rightIH printable.2)⟩⟩
  | unary op operand ih =>
      have before : ∀ token ∈ op.before, token.Spellable := by
        cases op <;> simp [UnaryOp.before, Token.Spellable]
      have after : ∀ token ∈ op.after, token.Spellable := by
        cases op <;> simp [UnaryOp.after, Token.Spellable]
      exact List.forall_mem_append.2
        ⟨List.forall_mem_append.2 ⟨before, spellable_enclosed (ih printable)⟩, after⟩

theorem parse_of_tokenize {source : String} {tokens : List Token} {expr : Expr}
    (lexed : tokenize source = .ok (tokens ++ [.eof])) :
    parse source = .ok expr ↔ Derives (.chain .or) tokens expr := by
  have unmarked : Token.eof ∉ tokens := by
    intro marked
    exact (lexed_of_tokenize lexed _ marked).notEof rfl
  rw [← parseTokens_eq_ok_iff unmarked]
  cases result : parseTokens (tokens ++ [Token.eof]) <;> simp [parse, lexed, result]

/-- Printing a tree and parsing the text gives the tree again: the text has the tokens of the tree,
and no text that parses to the tree has fewer tokens. -/
theorem Expr.parse_print {expr : Expr} (printable : expr.Printable) :
    tokenize expr.print = .ok (expr.tokens ++ [.eof]) ∧
    parse expr.print = .ok expr ∧
    ∀ source tokens, tokenize source = .ok (tokens ++ [.eof]) → parse source = .ok expr →
      expr.tokens.length ≤ tokens.length := by
  have lexed : tokenize expr.print = .ok (expr.tokens ++ [.eof]) := by
    simp only [tokenize, Expr.print, String.toList_ofList,
      tokenizeChars_spell (spellable_tokens printable)]
  have whole : ∀ expr : Expr, expr.tokensAt (.chain .or) = expr.tokens :=
    fun expr => if_neg (Nat.not_lt_of_le expr.level.strength_pos)
  refine ⟨lexed, ?_, ?_⟩
  · rw [parse_of_tokenize lexed]
    exact (derives_tokens printable).loosen expr.level.strength_pos
  · intro source tokens read parsed
    rw [← whole expr]
    exact ((parse_of_tokenize read).1 parsed).length_tokensAt_le

/-- A tree with a keyword for a column, the greatest integer, a quote in a text, and operands that
bind too loosely for their places. -/
def looseTree : Expr :=
  .binary .mul
    (.unary .minus
      (.binary .sub (.column "or")
        (.binary .sub (.literal (.integer 9223372036854775807)) (.literal .null))))
    (.unary .not
      (.binary .eq (.unary .isNull (.literal (.text "it's"))) (.literal (.boolean true))))

def looseText : String :=
  "- ( \x60or\x60 - ( 9223372036854775807 - null ) ) * ( not ( 'it''s' is null ) == true )"

theorem printable_looseTree : looseTree.Printable := by
  decide

theorem print_looseTree : looseTree.print = looseText := by
  decide +kernel

/-- A keyword as a column, the greatest word, a quote in a string, and three operands that need
parentheses. -/
theorem Expr.parse_print_looseTree :
    looseTree.Printable ∧ looseTree.print = looseText ∧ parse looseText = .ok looseTree := by
  refine ⟨printable_looseTree, print_looseTree, ?_⟩
  rw [← print_looseTree]
  exact (Expr.parse_print printable_looseTree).2.1

end TableFlow.Formula
