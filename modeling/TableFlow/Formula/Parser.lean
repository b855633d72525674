import TableFlow.Formula.Expr
import TableFlow.Formula.Lexer

/-!
# Trees of formulas

A recursive descent over the token list, one function for each level of binding
strength: `or`, `and`, `not`, comparisons, sums, products, signs, and single terms.
Chains of operators lean to the left, and comparisons do not chain. Every function
gives back the tokens it left unread together with the fact that it read some, which
is why the descent ends.
-/

namespace TableFlow.Formula

/-- A tree and the tokens left unread, fewer than `bound`. -/
structure Parsed (bound : Nat) where
  expr : Expr
  rest : List Token
  within : rest.length < bound

/-- The same result under a larger bound. -/
def Parsed.widen {low high : Nat} (parsed : Parsed low) (le : low ≤ high) : Parsed high :=
  { expr := parsed.expr, rest := parsed.rest, within := Nat.lt_of_lt_of_le parsed.within le }

/-- The next token; an exhausted list counts as its end marker. -/
def current : List Token → Token
  | [] => .eof
  | token :: _ => token

/-- The comparison that a token stands for. -/
def comparison? : Token → Option BinaryOp
  | .equal => some .eq
  | .notEqual => some .ne
  | .less => some .lt
  | .lessEqual => some .le
  | .greater => some .gt
  | .greaterEqual => some .ge
  | _ => none

/-- The operator of sums that a token stands for. -/
def additive? : Token → Option BinaryOp
  | .plus => some .add
  | .minus => some .sub
  | _ => none

/-- The operator of products that a token stands for. -/
def multiplicative? : Token → Option BinaryOp
  | .star => some .mul
  | .slash => some .div
  | .percent => some .mod
  | _ => none

/-- The sign that a token stands for. -/
def sign? : Token → Option UnaryOp
  | .plus => some .plus
  | .minus => some .minus
  | _ => none

/-- The cell of a number: an integer if it is one of 64 bits, otherwise a float. -/
def numberCell? (digits : String) : Option Cell :=
  match Number.readWord? digits.toList with
  | some value => some (.integer value)
  | none => (Number.readFloat? digits.toList).map .float

/-- The tree that a token is on its own. -/
def atom : Token → Except Unreadable Expr
  | .number digits =>
      match numberCell? digits with
      | some cell => .ok (.literal cell)
      | none => .error (.badNumber digits)
  | .string value => .ok (.literal (.text value))
  | .true => .ok (.literal (.boolean true))
  | .false => .ok (.literal (.boolean false))
  | .null => .ok (.literal .null)
  | .identifier name => .ok (.column name)
  | .eof => .error .endOfInput
  | token => .error (.strayToken token)

/-- The null test after `is`: whether it is negated, and the tokens after it. -/
def nullTest : (tokens : List Token) → Except Unreadable (UnaryOp × { rest : List Token //
    rest.length < tokens.length })
  | .null :: rest => .ok (.isNull, ⟨rest, Nat.lt_succ_self _⟩)
  | .not :: .null :: rest => .ok (.isNotNull, ⟨rest, by simp only [List.length_cons]; omega⟩)
  | .not :: rest => .error (.expected .null (current rest))
  | tokens => .error (.expected .null (current tokens))

mutual

/-- A chain of `or`. -/
def parseOr (tokens : List Token) : Except Unreadable (Parsed tokens.length) :=
  match parseAnd tokens with
  | .error reason => .error reason
  | .ok left =>
      have := left.within
      match parseOrTail left.expr left.rest with
      | .error reason => .error reason
      | .ok result => .ok (result.widen (by omega))
termination_by (tokens.length, 8)

/-- What follows the front of a chain of `or`. -/
def parseOrTail (left : Expr) (tokens : List Token) :
    Except Unreadable (Parsed (tokens.length + 1)) :=
  match tokens with
  | [] => .ok { expr := left, rest := [], within := Nat.lt_succ_self _ }
  | token :: rest =>
      if token = .or then
        match parseAnd rest with
        | .error reason => .error reason
        | .ok right =>
            have := right.within
            match parseOrTail (.binary .or left right.expr) right.rest with
            | .error reason => .error reason
            | .ok result => .ok (result.widen (by simp only [List.length_cons]; omega))
      else .ok { expr := left, rest := token :: rest, within := Nat.lt_succ_self _ }
termination_by (tokens.length, 0)

/-- A chain of `and`. -/
def parseAnd (tokens : List Token) : Except Unreadable (Parsed tokens.length) :=
  match parseNot tokens with
  | .error reason => .error reason
  | .ok left =>
      have := left.within
      match parseAndTail left.expr left.rest with
      | .error reason => .error reason
      | .ok result => .ok (result.widen (by omega))
termination_by (tokens.length, 7)

/-- What follows the front of a chain of `and`. -/
def parseAndTail (left : Expr) (tokens : List Token) :
    Except Unreadable (Parsed (tokens.length + 1)) :=
  match tokens with
  | [] => .ok { expr := left, rest := [], within := Nat.lt_succ_self _ }
  | token :: rest =>
      if token = .and then
        match parseNot rest with
        | .error reason => .error reason
        | .ok right =>
            have := right.within
            match parseAndTail (.binary .and left right.expr) right.rest with
            | .error reason => .error reason
            | .ok result => .ok (result.widen (by simp only [List.length_cons]; omega))
      else .ok { expr := left, rest := token :: rest, within := Nat.lt_succ_self _ }
termination_by (tokens.length, 0)

/-- A negation, or a comparison. -/
def parseNot (tokens : List Token) : Except Unreadable (Parsed tokens.length) :=
  match tokens with
  | [] => .error .endOfInput
  | token :: rest =>
      if token = .not then
        match parseNot rest with
        | .error reason => .error reason
        | .ok operand =>
            .ok { expr := .unary .not operand.expr, rest := operand.rest
                  within := Nat.lt_succ_of_lt operand.within }
      else parseComparison (token :: rest)
termination_by (tokens.length, 6)

/-- A sum, a null test of a sum, or a comparison of two sums. -/
def parseComparison (tokens : List Token) : Except Unreadable (Parsed tokens.length) :=
  match parseSum tokens with
  | .error reason => .error reason
  | .ok left =>
      have := left.within
      match found : left.rest with
      | [] => .ok left
      | token :: rest =>
          have : rest.length < tokens.length := by
            rw [found, List.length_cons] at this
            omega
          if token = .is then
            match nullTest rest with
            | .error reason => .error reason
            | .ok (op, after) =>
                .ok { expr := .unary op left.expr, rest := after.val
                      within := Nat.lt_trans after.property this }
          else
            match comparison? token with
            | none => .ok left
            | some op =>
                match parseSum rest with
                | .error reason => .error reason
                | .ok right =>
                    .ok { expr := .binary op left.expr right.expr, rest := right.rest
                          within := Nat.lt_trans right.within this }
termination_by (tokens.length, 5)

/-- A chain of sums and differences. -/
def parseSum (tokens : List Token) : Except Unreadable (Parsed tokens.length) :=
  match parseProduct tokens with
  | .error reason => .error reason
  | .ok left =>
      have := left.within
      match parseSumTail left.expr left.rest with
      | .error reason => .error reason
      | .ok result => .ok (result.widen (by omega))
termination_by (tokens.length, 4)

/-- What follows the front of a chain of sums. -/
def parseSumTail (left : Expr) (tokens : List Token) :
    Except Unreadable (Parsed (tokens.length + 1)) :=
  match tokens with
  | [] => .ok { expr := left, rest := [], within := Nat.lt_succ_self _ }
  | token :: rest =>
      match additive? token with
      | none => .ok { expr := left, rest := token :: rest, within := Nat.lt_succ_self _ }
      | some op =>
          match parseProduct rest with
          | .error reason => .error reason
          | .ok right =>
              have := right.within
              match parseSumTail (.binary op left right.expr) right.rest with
              | .error reason => .error reason
              | .ok result => .ok (result.widen (by simp only [List.length_cons]; omega))
termination_by (tokens.length, 0)

/-- A chain of products, quotients and remainders. -/
def parseProduct (tokens : List Token) : Except Unreadable (Parsed tokens.length) :=
  match parseSign tokens with
  | .error reason => .error reason
  | .ok left =>
      have := left.within
      match parseProductTail left.expr left.rest with
      | .error reason => .error reason
      | .ok result => .ok (result.widen (by omega))
termination_by (tokens.length, 3)

/-- What follows the front of a chain of products. -/
def parseProductTail (left : Expr) (tokens : List Token) :
    Except Unreadable (Parsed (tokens.length + 1)) :=
  match tokens with
  | [] => .ok { expr := left, rest := [], within := Nat.lt_succ_self _ }
  | token :: rest =>
      match multiplicative? token with
      | none => .ok { expr := left, rest := token :: rest, within := Nat.lt_succ_self _ }
      | some op =>
          match parseSign rest with
          | .error reason => .error reason
          | .ok right =>
              have := right.within
              match parseProductTail (.binary op left right.expr) right.rest with
              | .error reason => .error reason
              | .ok result => .ok (result.widen (by simp only [List.length_cons]; omega))
termination_by (tokens.length, 0)

/-- Signs before a term. -/
def parseSign (tokens : List Token) : Except Unreadable (Parsed tokens.length) :=
  match tokens with
  | [] => .error .endOfInput
  | token :: rest =>
      match sign? token with
      | some op =>
          match parseSign rest with
          | .error reason => .error reason
          | .ok operand =>
              .ok { expr := .unary op operand.expr, rest := operand.rest
                    within := Nat.lt_succ_of_lt operand.within }
      | none => parseTerm (token :: rest)
termination_by (tokens.length, 2)

/-- A literal, a column, or a formula in parentheses. -/
def parseTerm (tokens : List Token) : Except Unreadable (Parsed tokens.length) :=
  match tokens with
  | [] => .error .endOfInput
  | token :: rest =>
      if token = .leftParen then
        match parseOr rest with
        | .error reason => .error reason
        | .ok inner =>
            have := inner.within
            match found : inner.rest with
            | [] => .error (.expected .rightParen .eof)
            | close :: after =>
                if close = .rightParen then
                  .ok { expr := inner.expr, rest := after
                        within := by
                          rw [found, List.length_cons] at this
                          rw [List.length_cons]
                          omega }
                else .error (.expected .rightParen close)
      else
        match atom token with
        | .error reason => .error reason
        | .ok expr => .ok { expr, rest, within := Nat.lt_succ_self _ }
termination_by (tokens.length, 1)

end

/-- The tree of a whole token list. -/
def parseTokens (tokens : List Token) : Except Unreadable Expr :=
  if current tokens = .eof then .error .empty
  else
    match parseOr tokens with
    | .error reason => .error reason
    | .ok parsed =>
        if current parsed.rest = .eof then .ok parsed.expr
        else .error (.trailing (current parsed.rest))

/-- The tree of a formula. -/
def parse (source : String) : Except FormulaError Expr :=
  match tokenize source with
  | .error error => .error error
  | .ok tokens =>
      match parseTokens tokens with
      | .ok expr => .ok expr
      | .error reason => .error (.unreadable source reason)

end TableFlow.Formula
