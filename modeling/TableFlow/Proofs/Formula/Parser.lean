import Mathlib.Data.List.Basic
import TableFlow.Proofs.Formula.Grammar
import TableFlow.Proofs.Formula.Lexer

/-!
# The parser accepts the grammar

The parser has a function for each level of the grammar. What each of them reads is said once, as an
equivalence in terms of the functions that it calls; the two directions of the main theorem only use
these equivalences. Soundness follows the recursion of the parser. Completeness is by induction on
the derivation, with any tokens behind the ones of the derivation as long as the next token does not
bind more tightly than the level.
-/

namespace TableFlow.Formula

/-- A result that gives a tree and the tokens left unread. -/
def Reads {bound : Nat} (result : Except Unreadable (Parsed bound)) (expr : Expr)
    (rest : List Token) : Prop :=
  ∃ parsed, result = .ok parsed ∧ parsed.expr = expr ∧ parsed.rest = rest

@[simp] theorem reads_ok_iff {bound : Nat} {parsed : Parsed bound} {expr : Expr}
    {rest : List Token} :
    Reads (.ok parsed) expr rest ↔ parsed.expr = expr ∧ parsed.rest = rest := by
  simp [Reads]

@[simp] theorem not_reads_error {bound : Nat} {reason : Unreadable} {expr : Expr}
    {rest : List Token} : ¬ Reads (.error reason : Except Unreadable (Parsed bound)) expr rest := by
  simp [Reads]

theorem Reads.length_lt {bound : Nat} {result : Except Unreadable (Parsed bound)} {expr : Expr}
    {rest : List Token} (reads : Reads result expr rest) : rest.length < bound := by
  obtain ⟨parsed, _, _, rfl⟩ := reads
  exact parsed.within

@[simp] theorem Parsed.expr_widen {low high : Nat} (parsed : Parsed low) (le : low ≤ high) :
    (parsed.widen le).expr = parsed.expr :=
  rfl

@[simp] theorem Parsed.rest_widen {low high : Nat} (parsed : Parsed low) (le : low ≤ high) :
    (parsed.widen le).rest = parsed.rest :=
  rfl

/-- The parser of a level. -/
def Level.parse : (level : Level) → (tokens : List Token) →
    Except Unreadable (Parsed tokens.length)
  | .chain .or, tokens => parseOr tokens
  | .chain .and, tokens => parseAnd tokens
  | .chain .sum, tokens => parseSum tokens
  | .chain .product, tokens => parseProduct tokens
  | .negation, tokens => parseNot tokens
  | .comparison, tokens => parseComparison tokens
  | .sign, tokens => parseSign tokens
  | .term, tokens => parseTerm tokens

/-- The parser of what follows the front of a chain. -/
def Chain.parseTail : (kind : Chain) → (left : Expr) → (tokens : List Token) →
    Except Unreadable (Parsed (tokens.length + 1))
  | .or, left, tokens => parseOrTail left tokens
  | .and, left, tokens => parseAndTail left tokens
  | .sum, left, tokens => parseSumTail left tokens
  | .product, left, tokens => parseProductTail left tokens

/-- The parser of a level reads a tree from the front of some tokens. -/
def Parses (level : Level) (tokens : List Token) (expr : Expr) (rest : List Token) : Prop :=
  Reads (level.parse tokens) expr rest

theorem Parses.length_lt {level : Level} {tokens rest : List Token} {expr : Expr}
    (parses : Parses level tokens expr rest) : rest.length < tokens.length :=
  Reads.length_lt parses

theorem not_parses_nil {level : Level} {expr : Expr} {rest : List Token} :
    ¬ Parses level [] expr rest :=
  fun parses => Nat.not_lt_zero _ parses.length_lt

/-- A chain is an operand and what follows it. -/
theorem parses_chain_iff {kind : Chain} {tokens rest : List Token} {expr : Expr} :
    Parses (.chain kind) tokens expr rest ↔
      ∃ left middle, Parses kind.operand tokens left middle ∧
        Reads (kind.parseTail left middle) expr rest := by
  cases kind with
  | or =>
      simp only [Parses, Level.parse, Chain.operand, Chain.parseTail]
      rw [parseOr]
      cases parseAnd tokens with
      | error reason => simp
      | ok left =>
          cases tail : parseOrTail left.expr left.rest <;> simp [tail, and_assoc]
  | and =>
      simp only [Parses, Level.parse, Chain.operand, Chain.parseTail]
      rw [parseAnd]
      cases parseNot tokens with
      | error reason => simp
      | ok left =>
          cases tail : parseAndTail left.expr left.rest <;> simp [tail, and_assoc]
  | sum =>
      simp only [Parses, Level.parse, Chain.operand, Chain.parseTail]
      rw [parseSum]
      cases parseProduct tokens with
      | error reason => simp
      | ok left =>
          cases tail : parseSumTail left.expr left.rest <;> simp [tail, and_assoc]
  | product =>
      simp only [Parses, Level.parse, Chain.operand, Chain.parseTail]
      rw [parseProduct]
      cases parseSign tokens with
      | error reason => simp
      | ok left =>
          cases tail : parseProductTail left.expr left.rest <;> simp [tail, and_assoc]

/-- The operator by which a token goes on with a chain. -/
def Chain.operator? : Chain → Token → Option BinaryOp
  | .or, token => if token = .or then some .or else none
  | .and, token => if token = .and then some .and else none
  | .sum, token => additive? token
  | .product, token => multiplicative? token

theorem Chain.operator?_eq_some_iff {kind : Chain} {token : Token} {op : BinaryOp} :
    kind.operator? token = some op ↔ kind.Joins token op := by
  constructor
  · cases kind <;> cases token <;> rintro ⟨⟩ <;> constructor
  · rintro ⟨⟩ <;> rfl

theorem reads_parseTail_nil_iff {kind : Chain} {left expr : Expr} {rest : List Token} :
    Reads (kind.parseTail left []) expr rest ↔ left = expr ∧ [] = rest := by
  cases kind with
  | or => rw [Chain.parseTail, parseOrTail, reads_ok_iff]
  | and => rw [Chain.parseTail, parseAndTail, reads_ok_iff]
  | sum => rw [Chain.parseTail, parseSumTail, reads_ok_iff]
  | product => rw [Chain.parseTail, parseProductTail, reads_ok_iff]

/-- A chain goes on exactly if the next token is one of its operators. -/
theorem reads_parseTail_cons_iff {kind : Chain} {left expr : Expr} {token : Token}
    {tokens rest : List Token} :
    Reads (kind.parseTail left (token :: tokens)) expr rest ↔
      match kind.operator? token with
      | none => left = expr ∧ token :: tokens = rest
      | some op =>
          ∃ right middle, Parses kind.operand tokens right middle ∧
            Reads (kind.parseTail (.binary op left right) middle) expr rest := by
  cases kind with
  | or =>
      simp only [Parses, Level.parse, Chain.operand, Chain.parseTail, Chain.operator?]
      rw [parseOrTail]
      by_cases joins : token = .or
      · simp only [joins, if_true]
        cases parseAnd tokens with
        | error reason => simp
        | ok right =>
            cases tail : parseOrTail (.binary .or left right.expr) right.rest <;>
              simp [tail, and_assoc]
      · simp [joins]
  | and =>
      simp only [Parses, Level.parse, Chain.operand, Chain.parseTail, Chain.operator?]
      rw [parseAndTail]
      by_cases joins : token = .and
      · simp only [joins, if_true]
        cases parseNot tokens with
        | error reason => simp
        | ok right =>
            cases tail : parseAndTail (.binary .and left right.expr) right.rest <;>
              simp [tail, and_assoc]
      · simp [joins]
  | sum =>
      simp only [Parses, Level.parse, Chain.operand, Chain.parseTail, Chain.operator?]
      rw [parseSumTail]
      cases additive? token with
      | none => simp
      | some op =>
          cases parseProduct tokens with
          | error reason => simp
          | ok right =>
              cases tail : parseSumTail (.binary op left right.expr) right.rest <;>
                simp [tail, and_assoc]
  | product =>
      simp only [Parses, Level.parse, Chain.operand, Chain.parseTail, Chain.operator?]
      rw [parseProductTail]
      cases multiplicative? token with
      | none => simp
      | some op =>
          cases parseSign tokens with
          | error reason => simp
          | ok right =>
              cases tail : parseProductTail (.binary op left right.expr) right.rest <;>
                simp [tail, and_assoc]

/-- Each `not` is read with the negation behind it; without one there is a comparison. -/
theorem parses_negation_cons_iff {token : Token} {tokens rest : List Token} {expr : Expr} :
    Parses .negation (token :: tokens) expr rest ↔
      if token = .not then
        ∃ operand, Parses .negation tokens operand rest ∧ .unary .not operand = expr
      else Parses .comparison (token :: tokens) expr rest := by
  simp only [Parses, Level.parse]
  rw [parseNot]
  by_cases negated : token = .not
  · cases parseNot tokens <;> simp [negated, and_assoc, and_comm]
  · simp [negated]

theorem comparison?_eq_some_iff {token : Token} {op : BinaryOp} :
    comparison? token = some op ↔ Compares token op := by
  constructor
  · cases token <;> rintro ⟨⟩ <;> constructor
  · rintro ⟨⟩ <;> rfl

/-- What is read behind the first sum of a comparison: nothing, a null test, or another sum. -/
inductive Compared (left : Expr) : List Token → Expr → List Token → Prop where
  | stop {tokens : List Token} (noTest : current tokens ≠ .is)
      (noSum : comparison? (current tokens) = none) : Compared left tokens left tokens
  | isNull {rest : List Token} :
      Compared left (.is :: .null :: rest) (.unary .isNull left) rest
  | isNotNull {rest : List Token} :
      Compared left (.is :: .not :: .null :: rest) (.unary .isNotNull left) rest
  | compare {token : Token} {op : BinaryOp} {tokens rest : List Token} {right : Expr}
      (compares : comparison? token = some op) (sum : Parses (.chain .sum) tokens right rest) :
      Compared left (token :: tokens) (.binary op left right) rest

theorem compared_nil_iff {left expr : Expr} {rest : List Token} :
    Compared left [] expr rest ↔ left = expr ∧ [] = rest := by
  constructor
  · rintro ⟨⟩
    exact ⟨rfl, rfl⟩
  · rintro ⟨rfl, rfl⟩
    exact .stop nofun rfl

theorem compared_is_iff {left expr : Expr} {tokens rest : List Token} :
    Compared left (.is :: tokens) expr rest ↔
      match nullTest tokens with
      | .error _ => False
      | .ok (op, after) => .unary op left = expr ∧ after.val = rest := by
  constructor
  · intro compared
    cases compared with
    | stop noTest noSum => exact absurd rfl noTest
    | isNull => exact ⟨rfl, rfl⟩
    | isNotNull => exact ⟨rfl, rfl⟩
    | compare compares sum => cases compares
  · intro read
    split at read
    · contradiction
    · rename_i op after test
      obtain ⟨rfl, rfl⟩ := read
      unfold nullTest at test
      split at test <;> cases test
      · exact .isNull
      · exact .isNotNull

theorem compared_cons_iff {left expr : Expr} {token : Token} {tokens rest : List Token}
    (noTest : token ≠ .is) :
    Compared left (token :: tokens) expr rest ↔
      match comparison? token with
      | none => left = expr ∧ token :: tokens = rest
      | some op =>
          ∃ right, Parses (.chain .sum) tokens right rest ∧ .binary op left right = expr := by
  constructor
  · intro compared
    cases compared with
    | stop _ noSum =>
        simp only [current] at noSum
        simp [noSum]
    | isNull => contradiction
    | isNotNull => contradiction
    | compare compares sum =>
        simp only [compares]
        exact ⟨_, sum, rfl⟩
  · intro read
    split at read
    · rename_i noSum
      obtain ⟨rfl, rfl⟩ := read
      exact .stop noTest noSum
    · rename_i compares
      obtain ⟨right, sum, rfl⟩ := read
      exact .compare compares sum

/-- A comparison is a sum and what is read behind it. -/
theorem parses_comparison_iff {tokens rest : List Token} {expr : Expr} :
    Parses .comparison tokens expr rest ↔
      ∃ left middle, Parses (.chain .sum) tokens left middle ∧ Compared left middle expr rest := by
  simp only [Parses, Level.parse]
  rw [parseComparison]
  cases parseSum tokens with
  | error reason => simp
  | ok left =>
      dsimp only
      split
      · rename_i found
        simp [found, compared_nil_iff, and_assoc]
      · rename_i token tail found
        by_cases test : token = .is
        · subst test
          cases null : nullTest tail <;> simp [found, compared_is_iff, null, and_assoc]
        · cases compares : comparison? token with
          | none => simp [found, compared_cons_iff test, test, compares, and_assoc]
          | some op =>
              cases sum : parseSum tail <;>
                simp [found, compared_cons_iff test, test, compares, sum, Parses, Level.parse,
                  and_assoc, and_comm]

theorem sign?_eq_some_iff {token : Token} {op : UnaryOp} :
    sign? token = some op ↔ Signs token op := by
  constructor
  · cases token <;> rintro ⟨⟩ <;> constructor
  · rintro ⟨⟩ <;> rfl

theorem atom_number (digits : String) :
    atom (.number digits) =
      match numberCell? digits with
      | some cell => .ok (.literal cell)
      | none => .error (.badNumber digits) :=
  rfl

theorem atom_eq_ok_iff {token : Token} {expr : Expr} :
    atom token = .ok expr ↔ Stands token expr := by
  constructor
  · intro stands
    cases token with
    | number digits =>
        rw [atom_number] at stands
        split at stands <;> cases stands
        rename_i value
        exact .number value
    | _ => cases stands <;> constructor
  · rintro (⟨value⟩ | _)
    · rw [atom_number, value]
    all_goals rfl

/-- Each sign is read with the signed term behind it; without one there is a term. -/
theorem parses_sign_cons_iff {token : Token} {tokens rest : List Token} {expr : Expr} :
    Parses .sign (token :: tokens) expr rest ↔
      match sign? token with
      | some op => ∃ operand, Parses .sign tokens operand rest ∧ .unary op operand = expr
      | none => Parses .term (token :: tokens) expr rest := by
  simp only [Parses, Level.parse]
  rw [parseSign]
  cases sign? token with
  | none => simp
  | some op => cases parseSign tokens <;> simp [and_assoc, and_comm]

/-- A term is a formula in parentheses, or a single token. -/
theorem parses_term_cons_iff {token : Token} {tokens rest : List Token} {expr : Expr} :
    Parses .term (token :: tokens) expr rest ↔
      if token = .leftParen then Parses (.chain .or) tokens expr (.rightParen :: rest)
      else atom token = .ok expr ∧ tokens = rest := by
  simp only [Parses, Level.parse]
  rw [parseTerm]
  by_cases opens : token = .leftParen
  · simp only [opens, if_true]
    cases parseOr tokens with
    | error reason => simp
    | ok inner =>
        dsimp only
        split
        · rename_i found
          simp [found]
        · rename_i close after found
          by_cases closes : close = .rightParen <;> simp [found, closes]
  · simp only [opens, if_false]
    cases atom token <;> simp

/-! ## Soundness -/

/-- What the parser of a level reads from some tokens is a formula of the level. -/
def Sound (level : Level) (tokens : List Token) : Prop :=
  ∀ ⦃expr rest⦄, Parses level tokens expr rest →
    ∃ used, tokens = used ++ rest ∧ Derives level used expr

/-- What follows the front of a chain goes on with it, if its operands are sound on shorter
tokens. -/
theorem derives_of_reads_parseTail {kind : Chain} {front : List Token} {left expr : Expr}
    {tokens rest : List Token}
    (operands : ∀ later : List Token, later.length < tokens.length → Sound kind.operand later)
    (chain : Derives (.chain kind) front left)
    (reads : Reads (kind.parseTail left tokens) expr rest) :
    ∃ used, tokens = used ++ rest ∧ Derives (.chain kind) (front ++ used) expr := by
  cases tokens with
  | nil =>
      obtain ⟨rfl, rfl⟩ := reads_parseTail_nil_iff.1 reads
      exact ⟨[], rfl, by simpa using chain⟩
  | cons token tokens =>
      rw [reads_parseTail_cons_iff] at reads
      split at reads
      · obtain ⟨rfl, rfl⟩ := reads
        exact ⟨[], rfl, by simpa using chain⟩
      · rename_i op joins
        obtain ⟨right, middle, operand, behind⟩ := reads
        have shorter : middle.length < (token :: tokens).length :=
          Nat.lt_succ_of_lt operand.length_lt
        obtain ⟨back, split, derives⟩ := operands tokens (Nat.lt_succ_self _) operand
        obtain ⟨used, rfl, whole⟩ := derives_of_reads_parseTail
          (fun later below => operands later (Nat.lt_trans below shorter))
          (chain.next (Chain.operator?_eq_some_iff.1 joins) derives) behind
        exact ⟨token :: back ++ used, by simp [split], by simpa using whole⟩
termination_by tokens.length

section Levels

variable {tokens : List Token}
  (shorter : ∀ later : List Token, later.length < tokens.length → ∀ level, Sound level later)

include shorter

theorem sound_chain {kind : Chain} (operand : Sound kind.operand tokens) :
    Sound (.chain kind) tokens := by
  intro expr rest parses
  obtain ⟨left, middle, first, tail⟩ := parses_chain_iff.1 parses
  have behind := first.length_lt
  obtain ⟨front, rfl, derives⟩ := operand first
  obtain ⟨used, rfl, whole⟩ := derives_of_reads_parseTail
    (fun later below => shorter later (Nat.lt_trans below behind) kind.operand) (.first derives)
    tail
  exact ⟨front ++ used, by simp, whole⟩

theorem sound_negation (comparison : Sound .comparison tokens) : Sound .negation tokens := by
  intro expr rest parses
  cases tokens with
  | nil => exact absurd parses not_parses_nil
  | cons token tokens =>
      rw [parses_negation_cons_iff] at parses
      split at parses
      · rename_i negated
        obtain ⟨operand, inner, rfl⟩ := parses
        obtain ⟨used, rfl, derives⟩ := shorter tokens (Nat.lt_succ_self _) .negation inner
        rw [negated]
        exact ⟨.not :: used, rfl, .not derives⟩
      · obtain ⟨used, split, derives⟩ := comparison parses
        exact ⟨used, split, .plain derives⟩

theorem sound_comparison (sum : Sound (.chain .sum) tokens) : Sound .comparison tokens := by
  intro expr rest parses
  obtain ⟨left, middle, first, compared⟩ := parses_comparison_iff.1 parses
  have behind := first.length_lt
  obtain ⟨front, rfl, derives⟩ := sum first
  cases compared with
  | stop noTest noSum => exact ⟨front, rfl, .sum derives⟩
  | isNull => exact ⟨front ++ [.is, .null], by simp, .isNull derives⟩
  | isNotNull => exact ⟨front ++ [.is, .not, .null], by simp, .isNotNull derives⟩
  | @compare token op later _ right compares second =>
      obtain ⟨back, rfl, other⟩ :=
        shorter later (Nat.lt_of_succ_lt behind) (.chain .sum) second
      exact ⟨front ++ token :: back, by simp,
        .compare derives (comparison?_eq_some_iff.1 compares) other⟩

theorem sound_sign (term : Sound .term tokens) : Sound .sign tokens := by
  intro expr rest parses
  cases tokens with
  | nil => exact absurd parses not_parses_nil
  | cons token tokens =>
      rw [parses_sign_cons_iff] at parses
      split at parses
      · rename_i op signs
        obtain ⟨operand, inner, rfl⟩ := parses
        obtain ⟨used, rfl, derives⟩ := shorter tokens (Nat.lt_succ_self _) .sign inner
        exact ⟨token :: used, rfl, .signed (sign?_eq_some_iff.1 signs) derives⟩
      · obtain ⟨used, split, derives⟩ := term parses
        exact ⟨used, split, .unsigned derives⟩

theorem sound_term : Sound .term tokens := by
  intro expr rest parses
  cases tokens with
  | nil => exact absurd parses not_parses_nil
  | cons token tokens =>
      rw [parses_term_cons_iff] at parses
      split at parses
      · rename_i opens
        obtain ⟨used, rfl, derives⟩ := shorter tokens (Nat.lt_succ_self _) (.chain .or) parses
        rw [opens]
        exact ⟨.leftParen :: used ++ [.rightParen], by simp, .parens derives⟩
      · obtain ⟨stands, rfl⟩ := parses
        exact ⟨[token], rfl, .atom (atom_eq_ok_iff.1 stands)⟩

end Levels

/-- Every level is sound: from the tightest to the loosest, given that all of them are on shorter
tokens. -/
theorem sound (tokens : List Token) (level : Level) : Sound level tokens := by
  have shorter : ∀ later : List Token, later.length < tokens.length → ∀ level, Sound level later :=
    fun later _ level => sound later level
  have term := sound_term shorter
  have sign := sound_sign shorter term
  have product : Sound (.chain .product) tokens := sound_chain shorter sign
  have sum : Sound (.chain .sum) tokens := sound_chain shorter product
  have comparison := sound_comparison shorter sum
  have negation := sound_negation shorter comparison
  have conjunction : Sound (.chain .and) tokens := sound_chain shorter negation
  cases level with
  | chain kind =>
      cases kind with
      | or => exact sound_chain shorter conjunction
      | and => exact conjunction
      | sum => exact sum
      | product => exact product
  | negation => exact negation
  | comparison => exact comparison
  | sign => exact sign
  | term => exact term
termination_by tokens.length

/-! ## Completeness -/

/-- How tightly a level binds. -/
def Level.strength : Level → Nat
  | .chain .or => 1
  | .chain .and => 2
  | .negation => 3
  | .comparison => 4
  | .chain .sum => 5
  | .chain .product => 6
  | .sign => 7
  | .term => 8

/-- How tightly a token binds to what stands before it: as tightly as the level on which it goes on
with a formula. -/
def Token.strength : Token → Nat
  | .or => 1
  | .and => 2
  | .is | .equal | .notEqual | .less | .lessEqual | .greater | .greaterEqual => 4
  | .plus | .minus => 5
  | .star | .slash | .percent => 6
  | _ => 0

/-- The next token does not go on with a formula of a level. -/
def Closed (level : Level) (rest : List Token) : Prop :=
  (current rest).strength < level.strength

theorem closed_cons {level : Level} {token : Token} (loose : token.strength < level.strength)
    (rest : List Token) : Closed level (token :: rest) :=
  loose

theorem Closed.mono {loose tight : Level} {rest : List Token} (closed : Closed loose rest)
    (le : loose.strength ≤ tight.strength) : Closed tight rest :=
  Nat.lt_of_lt_of_le closed le

theorem Chain.strength_lt_operand (kind : Chain) :
    (Level.chain kind).strength < kind.operand.strength := by
  cases kind <;> decide

theorem Chain.Joins.strength_eq {kind : Chain} {token : Token} {op : BinaryOp}
    (joins : kind.Joins token op) : token.strength = (Level.chain kind).strength := by
  cases joins <;> rfl

theorem Compares.strength_eq {token : Token} {op : BinaryOp} (compares : Compares token op) :
    token.strength = Level.comparison.strength := by
  cases compares <;> rfl

/-- A chain ends where its level is closed. -/
theorem reads_parseTail_of_closed {kind : Chain} {rest : List Token}
    (closed : Closed (.chain kind) rest) (left : Expr) :
    Reads (kind.parseTail left rest) left rest := by
  cases rest with
  | nil => exact reads_parseTail_nil_iff.2 ⟨rfl, rfl⟩
  | cons token tokens =>
      rw [reads_parseTail_cons_iff]
      split
      · exact ⟨rfl, rfl⟩
      · rename_i joins
        have same := (Chain.operator?_eq_some_iff.1 joins).strength_eq
        exact absurd closed (Nat.not_lt.2 (Nat.le_of_eq same.symm))

/-- A comparison ends where its level is closed. -/
theorem compared_of_closed {rest : List Token} (closed : Closed .comparison rest) (left : Expr) :
    Compared left rest left rest := by
  apply Compared.stop
  · intro test
    rw [Closed, test] at closed
    exact absurd closed (by decide)
  · cases compares : comparison? (current rest) with
    | none => rfl
    | some op =>
        have same := (comparison?_eq_some_iff.1 compares).strength_eq
        exact absurd closed (Nat.not_lt.2 (Nat.le_of_eq same.symm))

/-- The parser of a level reads the tokens of a formula. Behind the front of a chain it reads on, so
the tokens that follow may go on with the chain. -/
def Complete : Level → List Token → Expr → Prop
  | .chain kind, used, expr =>
      ∀ ⦃rest whole final⦄, Closed kind.operand rest →
        Reads (kind.parseTail expr rest) whole final →
          Parses (.chain kind) (used ++ rest) whole final
  | level, used, expr => ∀ ⦃rest⦄, Closed level rest → Parses level (used ++ rest) expr rest

theorem Complete.parses {level : Level} {used rest : List Token} {expr : Expr}
    (complete : Complete level used expr) (closed : Closed level rest) :
    Parses level (used ++ rest) expr rest := by
  cases level with
  | chain kind =>
      exact complete (closed.mono (Nat.le_of_lt kind.strength_lt_operand))
        (reads_parseTail_of_closed closed expr)
  | negation => exact complete closed
  | comparison => exact complete closed
  | sign => exact complete closed
  | term => exact complete closed

/-- Every formula of a level is read by the parser of the level. -/
theorem complete {level : Level} {used : List Token} {expr : Expr}
    (derives : Derives level used expr) : Complete level used expr := by
  induction derives with
  | first operand ih =>
      intro rest whole final closed tail
      exact parses_chain_iff.2 ⟨_, _, ih.parses closed, tail⟩
  | @next kind front back token op left right chain joins operand chainIH operandIH =>
      intro rest whole final closed tail
      -- The joining token is no tighter than the chain, so the operand before it ends there.
      have go : Closed kind.operand (token :: (back ++ rest)) := by
        apply closed_cons
        rw [joins.strength_eq]
        exact kind.strength_lt_operand
      rw [List.append_assoc, List.cons_append]
      apply chainIH go
      rw [reads_parseTail_cons_iff, Chain.operator?_eq_some_iff.2 joins]
      exact ⟨right, rest, operandIH.parses closed, tail⟩
  | not operand ih =>
      intro rest closed
      rw [List.cons_append, parses_negation_cons_iff, if_pos rfl]
      exact ⟨_, ih closed, rfl⟩
  | plain comparison ih =>
      intro rest closed
      have parses := ih.parses (closed.mono (by decide))
      -- A comparison does not start with the token that would make it a negation.
      obtain ⟨head, tail, rfl, negates, _⟩ := comparison.front
      have notNot : head ≠ .not := by
        intro same
        cases negates same
      rw [List.cons_append, parses_negation_cons_iff, if_neg notNot]
      exact parses
  | sum sum ih =>
      intro rest closed
      exact parses_comparison_iff.2
        ⟨_, _, ih.parses (closed.mono (by decide)), compared_of_closed closed _⟩
  | isNull sum ih =>
      intro rest closed
      rw [List.append_assoc]
      exact parses_comparison_iff.2 ⟨_, _, ih.parses (closed_cons (by decide) _), .isNull⟩
  | isNotNull sum ih =>
      intro rest closed
      rw [List.append_assoc]
      exact parses_comparison_iff.2 ⟨_, _, ih.parses (closed_cons (by decide) _), .isNotNull⟩
  | @compare front back token op left right leftSum compares rightSum leftIH rightIH =>
      intro rest closed
      have go : Closed (.chain .sum) (token :: (back ++ rest)) := by
        apply closed_cons
        rw [compares.strength_eq]
        decide
      rw [List.append_assoc, List.cons_append]
      exact parses_comparison_iff.2 ⟨_, _, leftIH.parses go,
        .compare (comparison?_eq_some_iff.2 compares) (rightIH.parses (closed.mono (by decide)))⟩
  | signed signs operand ih =>
      intro rest closed
      rw [List.cons_append, parses_sign_cons_iff, sign?_eq_some_iff.2 signs]
      exact ⟨_, ih closed, rfl⟩
  | unsigned term ih =>
      intro rest closed
      have parses := ih.parses (closed.mono (by decide))
      obtain ⟨head, tail, rfl, _, unsigned⟩ := term.front
      rw [List.cons_append, parses_sign_cons_iff]
      split
      · rename_i op signs
        exact absurd (sign?_eq_some_iff.1 signs) (unsigned rfl op)
      · exact parses
  | @atom token expr stands =>
      intro rest closed
      have notParen : token ≠ .leftParen := by
        rintro rfl
        cases stands
      rw [List.cons_append, parses_term_cons_iff, if_neg notParen]
      exact ⟨atom_eq_ok_iff.2 stands, rfl⟩
  | parens inner ih =>
      intro rest closed
      rw [List.append_assoc, List.cons_append, parses_term_cons_iff, if_pos rfl]
      exact ih.parses (closed_cons (by decide) rest)

/-- Some tokens without end marker are a formula exactly if the parser gives its tree. -/
theorem parseTokens_eq_ok_iff {tokens : List Token} (unmarked : Token.eof ∉ tokens) {expr : Expr} :
    parseTokens (tokens ++ [Token.eof]) = .ok expr ↔ Derives (.chain .or) tokens expr := by
  constructor
  · intro parsed
    unfold parseTokens at parsed
    split at parsed
    · cases parsed
    · split at parsed
      · cases parsed
      · rename_i result found
        split at parsed
        · rename_i ended
          cases parsed
          obtain ⟨used, split, derives⟩ :=
            sound (tokens ++ [Token.eof]) (.chain .or) ⟨result, found, rfl, rfl⟩
          -- What is left is the end marker alone: a formula cannot have read past it.
          cases rest : result.rest with
          | nil =>
              rw [rest, List.append_nil] at split
              exact absurd (split ▸ derives.eof_not_mem) (by simp)
          | cons last tail =>
              rw [rest] at ended split
              cases ended
              have same := (List.append_cons_inj_of_notMem unmarked List.not_mem_nil).1 split
              rw [← same.1] at derives
              exact derives
        · cases parsed
  · intro derives
    obtain ⟨parsed, found, rfl, left⟩ :=
      (complete derives).parses (closed_cons (by decide : Token.eof.strength < 1) [])
    obtain ⟨head, tail, rfl, _⟩ := derives.front
    have started : current (head :: tail ++ [Token.eof]) ≠ .eof := by
      rintro rfl
      exact unmarked List.mem_cons_self
    have found : parseOr (head :: tail ++ [Token.eof]) = .ok parsed := found
    rw [parseTokens, if_neg started, found]
    simp [left, current]

/-- No tokens are formulas of two trees. -/
theorem Derives.unique {tokens : List Token} {first second : Expr}
    (left : Derives (.chain .or) tokens first) (right : Derives (.chain .or) tokens second) :
    first = second := by
  have leftParsed := (parseTokens_eq_ok_iff left.eof_not_mem).2 left
  have rightParsed := (parseTokens_eq_ok_iff left.eof_not_mem).2 right
  rw [leftParsed] at rightParsed
  cases rightParsed
  rfl

theorem lexed_of_tokenize {source : String} {tokens : List Token}
    (lexed : tokenize source = .ok (tokens ++ [Token.eof])) : ∀ token ∈ tokens, Lexed token := by
  obtain ⟨inside, same, each⟩ := lexed_of_tokenizeChars (tokenizeChars_of_tokenize lexed)
  rw [List.append_cancel_right same]
  exact each

/-- The parser accepts exactly the grammar: a text has a tree exactly if its tokens derive the tree,
and is refused as unreadable if they derive none. The tree is unique, and every number in the text
is a term. -/
theorem parse_iff_derives {source : String} {tokens : List Token}
    (lexed : tokenize source = .ok (tokens ++ [Token.eof])) :
    (∀ expr, parse source = .ok expr ↔ Derives (.chain .or) tokens expr) ∧
    ((∀ expr, ¬ Derives (.chain .or) tokens expr) →
      ∃ reason, parse source = .error (.unreadable source reason)) ∧
    (∀ first second, Derives (.chain .or) tokens first → Derives (.chain .or) tokens second →
      first = second) ∧
    (∀ digits, Token.number digits ∈ tokens →
      ∃ cell, Derives .term [Token.number digits] (.literal cell)) := by
  have inside := lexed_of_tokenize lexed
  have unmarked : Token.eof ∉ tokens := fun marked => (inside _ marked).notEof rfl
  refine ⟨?_, ?_, ?_, ?_⟩
  · intro expr
    rw [← parseTokens_eq_ok_iff unmarked]
    cases result : parseTokens (tokens ++ [Token.eof]) <;> simp [parse, lexed, result]
  · intro none
    cases result : parseTokens (tokens ++ [Token.eof]) with
    | ok expr => exact absurd ((parseTokens_eq_ok_iff unmarked).1 result) (none expr)
    | error reason => exact ⟨reason, by simp [parse, lexed, result]⟩
  · intro first second left right
    exact left.unique right
  · intro digits member
    obtain ⟨cell, value⟩ := Option.isSome_iff_exists.1 ((inside _ member).number digits rfl)
    exact ⟨cell, .atom (.number value)⟩

/-- A null test of a difference of three terms. -/
def differenceTokens : List Token :=
  [.identifier "a", .minus, .identifier "b", .minus, .number "1", .is, .not, .null]

/-- Its tree, in which the first difference is the left operand of the second. -/
def differenceTree : Expr :=
  .unary .isNotNull
    (.binary .sub (.binary .sub (.column "a") (.column "b")) (.literal (.integer 1)))

theorem derives_differenceTree : Derives (.chain .or) differenceTokens differenceTree := by
  have a : Derives (.chain .product) [.identifier "a"] (.column "a") :=
    .first (.unsigned (.atom (.identifier "a")))
  have b : Derives (.chain .product) [.identifier "b"] (.column "b") :=
    .first (.unsigned (.atom (.identifier "b")))
  have one : Derives (.chain .product) [.number "1"] (.literal (.integer 1)) :=
    .first (.unsigned (.atom (.number rfl)))
  exact .first (.first (.plain (.isNotNull (.next (.next (.first a) .sub b) .sub one))))

/-- Differences associate to the left, and a test of a difference covers the whole chain. -/
theorem parse_iff_derives_difference :
    tokenize "a - b - 1 is not null" = .ok (differenceTokens ++ [Token.eof]) ∧
      Derives (.chain .or) differenceTokens differenceTree ∧
      parse "a - b - 1 is not null" = .ok differenceTree := by
  have lexed : tokenize "a - b - 1 is not null" = .ok (differenceTokens ++ [Token.eof]) := by
    with_unfolding_all rfl
  exact ⟨lexed, derives_differenceTree,
    ((parse_iff_derives lexed).1 differenceTree).2 derives_differenceTree⟩

end TableFlow.Formula
