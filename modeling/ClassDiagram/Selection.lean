import ClassDiagram.Text.Quoted

/-!
# Selections

What is selected in a codebase: nothing, an assembly, or a class of an assembly, which may
be on display as a diagram.
-/

namespace ClassDiagram

/-- What is selected. -/
inductive Selection where
  | idle
  | assembly (assembly : String)
  /-- A class is selected, but its diagram is not drawn yet. -/
  | focused (assembly className : String)
  | drawn (assembly className diagram : String)
deriving DecidableEq

namespace Selection

/-- The selected assembly. -/
def assembly? : Selection → Option String
  | idle => none
  | assembly name | focused name _ | drawn name _ _ => some name

/-- The selected class. -/
def className? : Selection → Option String
  | idle | assembly _ => none
  | focused _ name | drawn _ name _ => some name

/-- The diagram on display. -/
def diagram? : Selection → Option String
  | drawn _ _ diagram => some diagram
  | idle | assembly _ | focused _ _ => none

/-- The name of the selection's stage. -/
def stage : Selection → String
  | idle => "Idle"
  | assembly _ => "AssemblyFocused"
  | focused _ _ => "ClassFocused"
  | drawn _ _ _ => "Rendered"

/-- What is known at the selection's stage, by name. -/
def details : Selection → List (String × String)
  | idle => []
  | assembly name => [("assembly", name)]
  | focused name className => [("assembly", name), ("class", className)]
  | drawn name className diagram =>
    [("assembly", name), ("class", className), ("diagram", diagram)]

/-- The selection in a line for people to read. -/
def summary (selection : Selection) : String :=
  match selection.details with
  | [] => selection.stage
  | details =>
    selection.stage ++ " \x7b "
      ++ ", ".intercalate (details.map fun detail => detail.1 ++ ": " ++ Text.quoted detail.2)
      ++ " \x7d"

end Selection

end ClassDiagram
