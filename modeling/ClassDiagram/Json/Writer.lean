import ClassDiagram.Json.Value

/-!
# Writing JSON

Two ways to write a value: without any blanks, and with a line for every item and field,
indented by two more blanks for each container around it. In strings only the quotation
mark, the backslash and the control characters below the space are escaped.
-/

namespace ClassDiagram.Json

/-- The digit of a value below sixteen. -/
def hexDigit (value : Nat) : Char :=
  if value < 10 then Char.ofNat ('0'.toNat + value) else Char.ofNat ('a'.toNat + (value - 10))

/-- The way a character is written in a string. -/
def charText (c : Char) : List Char :=
  match c with
  | '"' => ['\\', '"']
  | '\\' => ['\\', '\\']
  | '\x08' => ['\\', 'b']
  | '\x0c' => ['\\', 'f']
  | '\n' => ['\\', 'n']
  | '\r' => ['\\', 'r']
  | '\t' => ['\\', 't']
  | c =>
    if c < ' ' then ['\\', 'u', '0', '0', hexDigit (c.toNat / 16), hexDigit (c.toNat % 16)]
    else [c]

/-- The way a string is written. One that denotes no text is written as half of a surrogate
pair. -/
def stringText : Option String → List Char
  | some value => '"' :: value.toList.flatMap charText ++ ['"']
  | none => "\"\\ud800\"".toList

mutual

/-- The value without blanks. -/
def compactChars : Json → List Char
  | null => "null".toList
  | bool value => (if value then "true" else "false").toList
  | number literal => literal.toList
  | text value => stringText value
  | array [] => "[]".toList
  | array (item :: rest) => '[' :: compactChars item ++ compactItems rest ++ [']']
  | object [] => "\x7b\x7d".toList
  | object ((key, value) :: rest) =>
    '\x7b' :: stringText key ++ ':' :: compactChars value ++ compactFields rest ++ ['\x7d']

/-- Further items without blanks. -/
def compactItems : List Json → List Char
  | [] => []
  | item :: rest => ',' :: compactChars item ++ compactItems rest

/-- Further fields without blanks. -/
def compactFields : List (Option String × Json) → List Char
  | [] => []
  | (key, value) :: rest =>
    ',' :: stringText key ++ ':' :: compactChars value ++ compactFields rest

end

/-- The value written without blanks. -/
def compact (value : Json) : String :=
  String.ofList value.compactChars

/-- A new line inside so many containers. -/
def newLine (level : Nat) : List Char :=
  '\n' :: List.replicate (2 * level) ' '

mutual

/-- The value with a line for every item and field, inside so many containers. -/
def prettyChars (level : Nat) : Json → List Char
  | null => "null".toList
  | bool value => (if value then "true" else "false").toList
  | number literal => literal.toList
  | text value => stringText value
  | array [] => "[]".toList
  | array (item :: rest) =>
    '[' :: newLine (level + 1) ++ prettyChars (level + 1) item ++ prettyItems (level + 1) rest
      ++ newLine level ++ [']']
  | object [] => "\x7b\x7d".toList
  | object ((key, value) :: rest) =>
    '\x7b' :: newLine (level + 1) ++ stringText key ++ ": ".toList
      ++ prettyChars (level + 1) value ++ prettyFields (level + 1) rest
      ++ newLine level ++ ['\x7d']

/-- Further items, a line for each. -/
def prettyItems (level : Nat) : List Json → List Char
  | [] => []
  | item :: rest => ',' :: newLine level ++ prettyChars level item ++ prettyItems level rest

/-- Further fields, a line for each. -/
def prettyFields (level : Nat) : List (Option String × Json) → List Char
  | [] => []
  | (key, value) :: rest =>
    ',' :: newLine level ++ stringText key ++ ": ".toList ++ prettyChars level value
      ++ prettyFields level rest

end

/-- The value written with a line for every item and field. -/
def pretty (value : Json) : String :=
  String.ofList (value.prettyChars 0)

end ClassDiagram.Json
