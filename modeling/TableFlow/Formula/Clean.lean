import TableFlow.Text.Blank

/-!
# Cleaning formulas

Step definitions write column names between square brackets. Cleaning turns such
references into backticked names and leaves the content of strings alone; a bracket
that is never closed stays, for the reader of formulas to refuse. A text between
double quotes is a literal and no formula at all.
-/

namespace TableFlow.Formula

/-- What follows the first character that ends a run is shorter than the whole. -/
theorem length_lt_of_dropWhile {test : Char → Bool} {chars rest : List Char} {char : Char}
    (found : chars.dropWhile test = char :: rest) : rest.length < chars.length := by
  have bound := (List.dropWhile_sublist (l := chars) test).length_le
  rw [found, List.length_cons] at bound
  exact bound

/-- Turn bracketed names into backticked ones. -/
def cleanChars (chars : List Char) : List Char :=
  match chars with
  | [] => []
  | char :: rest =>
      if char = '\'' ∨ char = '"' then
        match found : rest.dropWhile (· != char) with
        | [] => char :: rest
        | close :: after =>
            have := length_lt_of_dropWhile found
            char :: rest.takeWhile (· != char) ++ close :: cleanChars after
      else if char = '[' then
        match found : rest.dropWhile (· != ']') with
        | [] => char :: rest
        | _ :: after =>
            have := length_lt_of_dropWhile found
            '\x60' :: rest.takeWhile (· != ']') ++ '\x60' :: cleanChars after
      else char :: cleanChars rest
termination_by chars.length

/-- A formula as the reader of formulas expects it. -/
def clean (source : String) : String :=
  String.ofList (cleanChars (Text.trimChars source.toList))

/-- Whether a text starts and ends with a double quote; one quote alone does both. -/
def isLiteral (source : String) : Bool :=
  source.toList.head? == some '"' && source.toList.getLast? == some '"'

/-- The text between the quotes of a literal; empty if there are not two quotes. -/
def unquote (source : String) : String :=
  match source.toList with
  | '"' :: rest => if rest.getLast? == some '"' then String.ofList rest.dropLast else ""
  | _ => ""

end TableFlow.Formula
