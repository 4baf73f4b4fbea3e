import ClassDiagram.Json.Value

/-!
# Reading records from JSON

A record may be written as an object, with its fields in any order, or as an array of its
fields in their own order, of which the last ones may be missing. In an object, fields of
other names are passed over, whatever they hold; a field of the record must not come twice.

Values are read within a budget: the number of arrays and objects that may still be opened.
What is passed over costs nothing.
-/

namespace ClassDiagram.Json

/-- The text of a string that denotes one. -/
def text? : Json → Option String
  | text value => value
  | _ => none

/-- A truth value. -/
def bool? : Json → Option Bool
  | bool value => some value
  | _ => none

/-- Whether a name comes at most once among the keys. -/
def occursOnce (fields : List (Option String × Json)) (name : String) : Bool :=
  fields.countP (fun field => field.1 == some name) ≤ 1

/-- The values of a record's fields, in the order of their names, as far as they are there. -/
def fields? (names : List String) : Json → Option (List (Option Json))
  | object fields =>
    if fields.all (fun field => field.1.isSome) && names.all (occursOnce fields) then
      some (names.map fun name => fields.lookup (some name))
    else none
  | array items =>
    if items.length ≤ names.length then
      some (items.map some ++ List.replicate (names.length - items.length) none)
    else none
  | _ => none

/-- A field that must be there. -/
def required {α : Type} (read : Json → Option α) : Option Json → Option α
  | some value => read value
  | none => none

/-- A field that has a default. -/
def defaulting {α : Type} (default : α) (read : Json → Option α) : Option Json → Option α
  | some value => read value
  | none => some default

/-- A value in whose place there may be `null`. -/
def nullable {α : Type} (read : Json → Option α) : Json → Option (Option α)
  | null => some none
  | value => (read value).map some

/-- An array, each item of which is read. -/
def items? {α : Type} (read : Json → Option α) : Json → Option (List α)
  | array items => items.mapM read
  | _ => none

/-- A list, each item of which is read within what is left of the budget. -/
def list? {α : Type} (read : Nat → Json → Option α) : Nat → Json → Option (List α)
  | 0, _ => none
  | budget + 1, value => value.items? (read budget)

/-- A list of texts. -/
def texts? (budget : Nat) (value : Json) : Option (List String) :=
  value.list? (fun _ => text?) budget

end ClassDiagram.Json
