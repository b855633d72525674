/-!
# Documents

The data model of the documents in which pipelines are stored. Numbers come in two
sorts, integers and floats, because a whole number and a number with a fraction
mean different cells. An object is the list of its fields as written, repetitions
included; whether a repeated name is an error is for the reader of the object to
decide.
-/

namespace TableFlow

/-- A document. -/
inductive Json where
  | null
  | boolean (value : Bool)
  | integer (value : Int)
  | float (value : Float)
  | string (value : String)
  | array (items : List Json)
  | object (fields : List (String × Json))

namespace Json

mutual

/-- How deep arrays and objects nest in a document. -/
def depth : Json → Nat
  | .array items => depthItems items + 1
  | .object fields => depthFields fields + 1
  | _ => 0

/-- The depth of the deepest of several documents. -/
def depthItems : List Json → Nat
  | [] => 0
  | item :: rest => max item.depth (depthItems rest)

/-- The depth of the deepest field. -/
def depthFields : List (String × Json) → Nat
  | [] => 0
  | (_, value) :: rest => max value.depth (depthFields rest)

end

mutual

/-- The document in which a repeated name in an object keeps its last value only. -/
def lastWins : Json → Json
  | .array items => .array (lastWinsItems items)
  | .object fields => .object (lastWinsFields fields)
  | document => document

/-- `lastWins` on every item. -/
def lastWinsItems : List Json → List Json
  | [] => []
  | item :: rest => item.lastWins :: lastWinsItems rest

/-- The fields that no later field of the same name replaces. -/
def lastWinsFields : List (String × Json) → List (String × Json)
  | [] => []
  | (name, value) :: rest =>
      if rest.any (fun field => field.1 == name) then lastWinsFields rest
      else (name, value.lastWins) :: lastWinsFields rest

end

end Json

end TableFlow
