import TableFlow.Text.Visible

/-!
# Tokens of formulas

A formula is a sequence of tokens that ends with an end marker. Each token has a name
by which messages call it; tokens with content show the content as well.
-/

namespace TableFlow.Formula

/-- A token of a formula. -/
inductive Token where
  | identifier (name : String)
  | number (digits : String)
  | string (value : String)
  | plus
  | minus
  | star
  | slash
  | percent
  | equal
  | notEqual
  | less
  | lessEqual
  | greater
  | greaterEqual
  | leftParen
  | rightParen
  | and
  | or
  | not
  | is
  | null
  | true
  | false
  | eof
  deriving DecidableEq

namespace Token

/-- The name of a token's class. -/
def className : Token → String
  | .identifier _ => "Identifier"
  | .number _ => "Number"
  | .string _ => "String"
  | .plus => "Plus"
  | .minus => "Minus"
  | .star => "Star"
  | .slash => "Slash"
  | .percent => "Percent"
  | .equal => "Equal"
  | .notEqual => "NotEqual"
  | .less => "Less"
  | .lessEqual => "LessEqual"
  | .greater => "Greater"
  | .greaterEqual => "GreaterEqual"
  | .leftParen => "LeftParen"
  | .rightParen => "RightParen"
  | .and => "And"
  | .or => "Or"
  | .not => "Not"
  | .is => "Is"
  | .null => "Null"
  | .true => "True"
  | .false => "False"
  | .eof => "Eof"

/-- The text that a token carries, if its class does not say it all. -/
def content? : Token → Option String
  | .identifier name => some name
  | .number digits => some digits
  | .string value => some value
  | _ => none

/-- A token in a message: its class, and its content between parentheses. -/
def describe (token : Token) : String :=
  match token.content? with
  | some content => token.className ++ "(" ++ Text.quoted content ++ ")"
  | none => token.className

end Token

end TableFlow.Formula
