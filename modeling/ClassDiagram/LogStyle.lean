import ClassDiagram.Text.LowerCase

/-!
# Styles of logs

The ways in which a program may write its log.
-/

namespace ClassDiagram

/-- A way to write a log. -/
inductive LogStyle where
  | compact
  | pretty
  | json
deriving DecidableEq

namespace LogStyle

/-- The name of the style. -/
def name : LogStyle → String
  | compact => "Compact"
  | pretty => "Pretty"
  | json => "Json"

/-- The style called by a name, in which upper and lower case count alike. -/
def ofName? (name : String) : Option LogStyle :=
  match String.ofList (Text.lowerCase name) with
  | "compact" => some compact
  | "pretty" => some pretty
  | "json" => some json
  | _ => none

/-- What people are told who ask for a style that there is not. -/
def unknown (name : String) : String :=
  "Unknown log format: " ++ name

/-- What people are told when a log cannot be set up because there is no such style. -/
def invalid (name : String) : String :=
  "Invalid log format: " ++ unknown name

end LogStyle

end ClassDiagram
