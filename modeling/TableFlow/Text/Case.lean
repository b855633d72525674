import TableFlow.Text.CaseTable

/-!
# Case mapping

Lower and upper case of whole texts, by the full mappings of Unicode without any
language's own rules. A character may become several (`ß` becomes `SS`), and one
mapping looks at its surroundings: the capital sigma becomes the final small
sigma at the end of a word.
-/

namespace TableFlow.Text

/-- The target of a code point under the first run that covers it. -/
def CaseRun.map? : List CaseRun → Nat → Option Nat
  | [], _ => none
  | run :: rest, code =>
      if run.low ≤ code ∧ code ≤ run.high ∧ (code - run.low) % run.stride = 0 then
        some (Int.toNat ((code : Int) + run.shift))
      else CaseRun.map? rest code

/-- A character under a table of runs and a table of longer mappings. -/
def mapCase (runs : List CaseRun) (expansions : List (Nat × List Nat)) (char : Char) : List Char :=
  match expansions.lookup char.toNat with
  | some codes => codes.map Char.ofNat
  | none =>
      match CaseRun.map? runs char.toNat with
      | some code => [Char.ofNat code]
      | none => [char]

/-- The upper case of a character. -/
def upperChar (char : Char) : List Char :=
  mapCase upperRuns upperExpansions char

/-- The lower case of a character on its own. -/
def lowerChar (char : Char) : List Char :=
  mapCase lowerRuns lowerExpansions char

/-- Whether the first character that case rules do not skip is a cased one. -/
def startsCased (chars : List Char) : Bool :=
  match chars.dropWhile (fun char => caseIgnorableRanges.holds char.toNat) with
  | [] => false
  | char :: _ => casedRanges.holds char.toNat

def capitalSigma : Char := Char.ofNat 0x3A3

/-- A small sigma: the final form after a cased character with none following. -/
def smallSigma (before after : List Char) : Char :=
  if startsCased before && !startsCased after then Char.ofNat 0x3C2 else Char.ofNat 0x3C3

/-- Lower case of the characters of a text, given the ones already passed,
nearest first. -/
def lowerFrom : List Char → List Char → List Char
  | _, [] => []
  | before, char :: rest =>
      (if char = capitalSigma then [smallSigma before rest] else lowerChar char) ++
        lowerFrom (char :: before) rest

/-- A text in lower case. -/
def toLower (text : String) : String :=
  String.ofList (lowerFrom [] text.toList)

/-- A text in upper case. -/
def toUpper (text : String) : String :=
  String.ofList (text.toList.flatMap upperChar)

end TableFlow.Text
