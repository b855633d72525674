import TableFlow.Cell.Convert
import TableFlow.Condition.Basic

/-!
# Conditions in documents

A node is an object with a field `and` or `or`. A leaf is a record of column, operator and,
except for the null test, value. The sorts of conditions are tried in a fixed order and the
first that fits decides.
-/

namespace TableFlow

open TableFlow.Json

instance : Labelled Comparison where
  label
    | .eq => "eq"
    | .ne => "ne"
    | .lt => "lt"
    | .le => "le"
    | .gt => "gt"
    | .ge => "ge"
  all := [.eq, .ne, .lt, .le, .gt, .ge]

instance : Labelled Membership where
  label
    | .within => "in"
    | .without => "nin"
  all := [.within, .without]

instance : Labelled NullTest where
  label
    | .isNull => "isnull"
    | .notNull => "notnull"
  all := [.isNull, .notNull]

namespace Condition

/-- A comparison with a literal. -/
def compareOfJson? (document : Json) : Option Condition :=
  match document.record? ["column", "operator", "value"] with
  | some [column, operator, value] => do
      let column ← required text? column
      let operator ← required strictChoice? operator
      let value ← required Cell.ofJson? value
      return .compare column operator value
  | _ => none

/-- A membership among literals. -/
def memberOfJson? (document : Json) : Option Condition :=
  match document.record? ["column", "operator", "value"] with
  | some [column, operator, value] => do
      let column ← required text? column
      let operator ← required strictChoice? operator
      let values ← required (list? Cell.ofJson?) value
      return .member column operator values
  | _ => none

/-- A test for emptiness. -/
def nullOfJson? (document : Json) : Option Condition :=
  match document.record? ["column", "operator"] with
  | some [column, operator] => do
      let column ← required text? column
      let test ← required strictChoice? operator
      return .null column test
  | _ => none

mutual

/-- The condition that a document stores. -/
def ofJson? (document : Json) : Option Condition :=
  let all :=
    match found : document.member? "and" with
    | some value =>
        have := sizeOf_of_member? found
        (childrenOfJson? value).map Condition.all
    | none => none
  let any :=
    match found : document.member? "or" with
    | some value =>
        have := sizeOf_of_member? found
        (childrenOfJson? value).map Condition.any
    | none => none
  all.or <| any.or <| (compareOfJson? document).or <| (memberOfJson? document).or <|
    nullOfJson? document
termination_by (sizeOf document, 0)

/-- The conditions that an array stores. -/
def childrenOfJson? (document : Json) : Option (List Condition) :=
  match document with
  | .array items => conditionsOfJson? items
  | _ => none
termination_by (sizeOf document, 1)

/-- The conditions that some documents store. -/
def conditionsOfJson? (documents : List Json) : Option (List Condition) :=
  match documents with
  | [] => some []
  | document :: rest =>
      match ofJson? document, conditionsOfJson? rest with
      | some child, some children => some (child :: children)
      | _, _ => none
termination_by (sizeOf documents, 0)

end

mutual

/-- A condition as a document. -/
def toJson : Condition → Json
  | .all children => .object [("and", .array (toJsonAll children))]
  | .any children => .object [("or", .array (toJsonAll children))]
  | .compare column operator value =>
      .object [("column", .string column), ("operator", ofChoice operator), ("value", value.toJson)]
  | .member column operator values =>
      .object
        [ ("column", .string column), ("operator", ofChoice operator),
          ("value", .array (values.map Cell.toJson)) ]
  | .null column test => .object [("column", .string column), ("operator", ofChoice test)]

/-- Conditions as documents. -/
def toJsonAll : List Condition → List Json
  | [] => []
  | child :: rest => child.toJson :: toJsonAll rest

end

end Condition

end TableFlow
