import TableFlow.Cell.Basic
import TableFlow.Formula.Token

/-!
# Formula errors

The causes for which a formula cannot be read or evaluated, and their wording.
-/

namespace TableFlow.Formula

/-- Why a text is not a formula. -/
inductive Unreadable where
  | strayCharacter (char : Char)
  | openString
  | openName
  | empty
  | trailing (token : Token)
  | endOfInput
  | strayToken (token : Token)
  | expected (wanted found : Token)
  | badNumber (digits : String)
  deriving DecidableEq

/-- The wording of a reason. -/
def Unreadable.message : Unreadable → String
  | .strayCharacter char => "unexpected character '" ++ String.ofList [char] ++ "'"
  | .openString => "unterminated string literal"
  | .openName => "unterminated quoted column name"
  | .empty => "empty expression"
  | .trailing token => "unexpected trailing token " ++ token.describe
  | .endOfInput => "unexpected end of input"
  | .strayToken token => "unexpected token " ++ token.describe
  | .expected wanted found => "expected " ++ wanted.describe ++ ", found " ++ found.describe
  | .badNumber digits => "invalid number " ++ digits

/-- Why a formula has no value. -/
inductive FormulaError where
  | unreadable (source : String) (reason : Unreadable)
  | unknownColumn (name : String)
  | badOperands (operator : String) (left right : Option Kind)
  | overflow (operator : String)
  | notBoolean (source : String) (kind : Kind)
  deriving DecidableEq

/-- A kind that may be missing, in a message. -/
def describeKind : Option Kind → String
  | some kind => "Some(" ++ kind.title ++ ")"
  | none => "None"

/-- The wording of an error. -/
def FormulaError.message : FormulaError → String
  | .unreadable source reason => "Cannot parse expression '" ++ source ++ "': " ++ reason.message
  | .unknownColumn name => "Unknown column: " ++ name
  | .badOperands operator left right =>
      "Invalid operand types for operator " ++ operator ++ ": left=" ++ describeKind left ++
        ", right=" ++ describeKind right
  | .overflow operator => "Integer overflow in operator " ++ operator
  | .notBoolean source kind =>
      "Predicate '" ++ source ++ "' produced " ++ kind.name ++ " values instead of booleans"

end TableFlow.Formula
