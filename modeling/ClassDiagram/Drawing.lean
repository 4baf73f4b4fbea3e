import ClassDiagram.Connections
import ClassDiagram.Members

/-!
# Drawings

A drawing is all that a diagram of one type shows, and `Drawing.text` writes it down in
PlantUML. Every line ends with a line feed. Besides one line for the base type, two for
each interface and one for each row there are seven lines, which are always there.
-/

namespace ClassDiagram

/-- All that the diagram of a type shows. -/
structure Drawing where
  kind : NodeKind
  label : String
  connections : Connections
  rows : MemberRows
deriving DecidableEq

namespace Drawing

/-- The line to a base type. -/
def baseLine (label base : String) : String :=
  label ++ " --|> " ++ base

/-- The declaration of an interface and the line to it. -/
def interfaceLines (label interface : String) : List String :=
  ["interface " ++ interface, label ++ " ..|> " ++ interface]

/-- The lines of the connections. -/
def connectionLines (label : String) (connections : Connections) : List String :=
  (connections.base.map (baseLine label)).toList
    ++ connections.interfaces.flatMap (interfaceLines label)

/-- The line of a field. -/
def fieldLine (row : ValueRow) : String :=
  "    \x7bfield\x7d -" ++ row.name ++ " : " ++ row.type

/-- The line of a property. -/
def propertyLine (row : ValueRow) : String :=
  "    \x7bfield\x7d +" ++ row.name ++ " : " ++ row.type

/-- The line of a method. -/
def methodLine (row : MethodRow) : String :=
  "    \x7bmethod\x7d " ++ row.sign ++ row.name ++ "(" ++ row.signature ++ ") : "
    ++ row.returnType

/-- The lines of the rows. -/
def rowLines (rows : MemberRows) : List String :=
  rows.fields.map fieldLine ++ rows.properties.map propertyLine ++ rows.methods.map methodLine

/-- The lines of the diagram. -/
def lines (drawing : Drawing) : List String :=
  ["@startuml", ""]
    ++ connectionLines drawing.label drawing.connections
    ++ ["", drawing.kind.introduction ++ " " ++ drawing.label ++ " \x7b"]
    ++ rowLines drawing.rows
    ++ ["\x7d", "", "@enduml"]

/-- The diagram. -/
def text (drawing : Drawing) : String :=
  String.join (drawing.lines.map (· ++ "\n"))

end Drawing

/-- The drawing of a type in an assembly, with given connections and rows. -/
def DiagramStyle.draw (style : DiagramStyle) (assembly : String) (type : IndexedType)
    (connections : Connections) (rows : MemberRows) : Drawing where
  kind := type.kind
  label := style.labels.label assembly type
  connections := connections
  rows := rows

end ClassDiagram
