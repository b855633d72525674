import TableFlow.Formula.Error
import TableFlow.Number.Reader
import TableFlow.Text.Alphabet
import TableFlow.Text.Blank
import TableFlow.Text.Case

/-!
# Tokens of a text

A text is read token by token, each as long as it can be, with any blanks between
them. Words are letters, digits and underscores; some words are keywords, in any
case. A column name that is no word stands in backticks. A string stands in single or
double quotes, and holds its own quote by doubling it.
-/

namespace TableFlow.Formula

open TableFlow.Text
open TableFlow.Number

/-- The keyword that a word is, if it is one. -/
def keyword? (word : String) : Option Token :=
  match toLower word with
  | "and" => some .and
  | "or" => some .or
  | "not" => some .not
  | "is" => some .is
  | "null" => some .null
  | "none" => some .null
  | "true" => some .true
  | "false" => some .false
  | _ => none

def wordToken (word : String) : Token :=
  (keyword? word).getD (.identifier word)

/-- Whether a word may start with a character. -/
def startsWord (char : Char) : Bool :=
  isAlphabetic char || char == '_'

/-- Whether a word may go on with a character. -/
def continuesWord (char : Char) : Bool :=
  isAlphanumeric char || char == '_'

/-- The rest of a string after its opening quote, up to the closing quote: the content
and what follows. A doubled quote is part of the content. -/
def readQuoted? (quote : Char) : List Char → Option (List Char × List Char)
  | [] => none
  | char :: rest =>
      if char = quote then
        match rest with
        | [] => some ([], [])
        | next :: after =>
            if next = quote then
              (readQuoted? quote after).map fun (content, rest) => (quote :: content, rest)
            else some ([], next :: after)
      else (readQuoted? quote rest).map fun (content, rest) => (char :: content, rest)

/-- The rest of a name after its opening backtick, up to the closing one. -/
def readName? : List Char → Option (List Char × List Char)
  | [] => none
  | char :: rest =>
      if char = '\x60' then some ([], rest)
      else (readName? rest).map fun (content, rest) => (char :: content, rest)

/-- The digits of a number, with at most one point, and what follows. -/
def readDigits (chars : List Char) : List Char × List Char :=
  let whole := chars.takeWhile isDigit
  match chars.dropWhile isDigit with
  | '.' :: rest => (whole ++ '.' :: rest.takeWhile isDigit, rest.dropWhile isDigit)
  | rest => (whole, rest)

/-- Read the token that starts with a character that is no blank. -/
def readToken (char : Char) (rest : List Char) : Except Unreadable (Token × List Char) :=
  match char with
  | '+' => .ok (.plus, rest)
  | '-' => .ok (.minus, rest)
  | '*' => .ok (.star, rest)
  | '/' => .ok (.slash, rest)
  | '%' => .ok (.percent, rest)
  | '(' => .ok (.leftParen, rest)
  | ')' => .ok (.rightParen, rest)
  | '=' =>
      match rest with
      | '=' :: rest => .ok (.equal, rest)
      | _ => .ok (.equal, rest)
  | '<' =>
      match rest with
      | '=' :: rest => .ok (.lessEqual, rest)
      | '>' :: rest => .ok (.notEqual, rest)
      | _ => .ok (.less, rest)
  | '>' =>
      match rest with
      | '=' :: rest => .ok (.greaterEqual, rest)
      | _ => .ok (.greater, rest)
  | '!' =>
      match rest with
      | '=' :: rest => .ok (.notEqual, rest)
      | _ => .error (.strayCharacter '!')
  | '\x60' =>
      match readName? rest with
      | some (name, rest) => .ok (.identifier (String.ofList name), rest)
      | none => .error .openName
  | _ =>
      if char = '\'' ∨ char = '"' then
        match readQuoted? char rest with
        | some (content, rest) => .ok (.string (String.ofList content), rest)
        | none => .error .openString
      else if startsWord char then
        .ok (wordToken (String.ofList (char :: rest.takeWhile continuesWord)),
          rest.dropWhile continuesWord)
      else if isDigit char ∨ (char = '.' ∧ (rest.head?.any isDigit)) then
        let (digits, rest) := readDigits (char :: rest)
        .ok (.number (String.ofList digits), rest)
      else .error (.strayCharacter char)

theorem readQuoted?_length {quote : Char} {chars content rest : List Char}
    (read : readQuoted? quote chars = some (content, rest)) : rest.length ≤ chars.length := by
  fun_induction readQuoted? quote chars generalizing content rest with
  | case1 => contradiction
  | case2 => simp_all
  | case3 after ih =>
      obtain ⟨⟨inner, tail⟩, found, same⟩ := Option.map_eq_some_iff.1 read
      have := ih found
      simp_all
      omega
  | case4 => simp_all
  | case5 char rest' _ ih =>
      obtain ⟨⟨inner, tail⟩, found, same⟩ := Option.map_eq_some_iff.1 read
      have := ih found
      simp_all
      omega

theorem readName?_length {chars content rest : List Char}
    (read : readName? chars = some (content, rest)) : rest.length ≤ chars.length := by
  fun_induction readName? chars generalizing content rest with
  | case1 => contradiction
  | case2 => simp_all
  | case3 char rest' _ ih =>
      obtain ⟨⟨inner, tail⟩, found, same⟩ := Option.map_eq_some_iff.1 read
      have := ih found
      simp_all
      omega

/-- A number takes at least its first character. -/
theorem readDigits_length {char : Char} {rest : List Char}
    (starts : isDigit char ∨ (char = '.' ∧ rest.head?.any isDigit)) :
    (readDigits (char :: rest)).2.length ≤ rest.length := by
  unfold readDigits
  rcases starts with digit | ⟨point, _⟩
  · simp only [List.dropWhile_cons, digit, if_true]
    have bound := (List.dropWhile_sublist (l := rest) isDigit).length_le
    split
    · rename_i after same
      have := (List.dropWhile_sublist (l := after) isDigit).length_le
      simp only [same, List.length_cons] at bound
      simp only
      omega
    · exact bound
  · subst point
    have notDigit : isDigit '.' = false := by decide
    simp only [List.dropWhile_cons, notDigit]
    exact (List.dropWhile_sublist (l := rest) isDigit).length_le

theorem readToken_length {char : Char} {chars rest : List Char} {token : Token}
    (read : readToken char chars = .ok (token, rest)) : rest.length ≤ chars.length := by
  unfold readToken at read
  split at read
  case h_13 =>
    split at read
    · split at read
      · next found =>
          have := readQuoted?_length found
          simp_all
      · contradiction
    · split at read
      · have := (List.dropWhile_sublist (l := chars) continuesWord).length_le
        simp_all
      · split at read
        · next starts =>
            have := readDigits_length starts
            simp_all
        · contradiction
  case h_12 =>
    split at read
    · next found =>
        have := readName?_length found
        simp_all
    · contradiction
  case h_8 => split at read <;> simp_all
  case h_9 => split at read <;> simp_all
  case h_10 => split at read <;> simp_all
  case h_11 => split at read <;> simp_all
  all_goals simp_all

/-- The tokens of a text, with the end marker. -/
def tokenizeChars (chars : List Char) : Except Unreadable (List Token) :=
  match chars with
  | [] => .ok [.eof]
  | char :: rest =>
      if isBlank char then tokenizeChars rest
      else
        match read : readToken char rest with
        | .error reason => .error reason
        | .ok (token, after) =>
            have := readToken_length read
            match tokenizeChars after with
            | .error reason => .error reason
            | .ok tokens => .ok (token :: tokens)
termination_by chars.length

def tokenize (source : String) : Except FormulaError (List Token) :=
  match tokenizeChars source.toList with
  | .ok tokens => .ok tokens
  | .error reason => .error (.unreadable source reason)

end TableFlow.Formula
