/-!
# JSON values

A value as it is written in a JSON text. Fields keep their order and may repeat. A string
may spell out code units that form no character, such as half of a surrogate pair; such a
string is well-formed but denotes no text, and its value is `none`.
-/

namespace ClassDiagram

/-- A JSON value. -/
inductive Json where
  | null
  | bool (value : Bool)
  /-- A number as it is written. -/
  | number (literal : String)
  | text (value : Option String)
  | array (items : List Json)
  | object (fields : List (Option String × Json))

namespace Json

/-- The value of a string that denotes a text. -/
def ofString (value : String) : Json :=
  text (some value)

/-- The value of a natural number. -/
def ofNat (value : Nat) : Json :=
  number (toString value)

/-- The value of a string that may be absent. -/
def ofString? : Option String → Json
  | some value => ofString value
  | none => null

/-- The value of a list of strings. -/
def ofStrings (values : List String) : Json :=
  array (values.map ofString)

/-- The object with these fields. -/
def ofFields (fields : List (String × Json)) : Json :=
  object (fields.map fun field => (some field.1, field.2))

mutual

/-- The number of arrays and objects that are open at once in the value's text. -/
def depth : Json → Nat
  | null | bool _ | number _ | text _ => 0
  | array items => depthOfItems items + 1
  | object fields => depthOfFields fields + 1

/-- The depth of the deepest item. -/
def depthOfItems : List Json → Nat
  | [] => 0
  | item :: rest => max item.depth (depthOfItems rest)

/-- The depth of the deepest field. -/
def depthOfFields : List (Option String × Json) → Nat
  | [] => 0
  | (_, value) :: rest => max value.depth (depthOfFields rest)

end

end Json

end ClassDiagram
