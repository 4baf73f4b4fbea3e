import ClassDiagram.DiagramStyle
import ClassDiagram.Symbol

/-!
# Connections

The lines that a diagram draws from a type: to its base type and to the interfaces it
implements. They come from the type's symbol, with generic arguments taken off and repeats
left out. No line is drawn to a root type.
-/

namespace ClassDiagram

/-- The names that a type is connected to. -/
structure Connections where
  base : Option String := none
  interfaces : List String := []
deriving DecidableEq

namespace Connections

/-- Whether the type stands alone. -/
def isEmpty (connections : Connections) : Bool :=
  connections.base.isNone && connections.interfaces.isEmpty

/-- The names that a list of entries refers to, each where it comes first. -/
def distinctReferred (entries : List String) : List String :=
  Name.distinct ((entries.map Name.referred).filter (· ≠ ""))

/-- The base type to draw a line to. -/
def baseOf? (style : DiagramStyle) (symbol : Symbol) : Option String :=
  (symbol.base.map Name.referred).filter fun name => name ≠ "" && !style.isRoot name

/-- The connections that a symbol stands for. -/
def ofSymbol (style : DiagramStyle) (symbol : Symbol) : Connections where
  base := baseOf? style symbol
  interfaces := distinctReferred symbol.interfaces

/-- The connections of a type in an assembly. Only classes that declare bases have any, and
only if a model knows them. -/
def ofType (style : DiagramStyle) (registry : SymbolRegistry) (assembly : String)
    (type : IndexedType) : Connections :=
  if type.kind.isClass && !type.declaredBases.isEmpty then
    match registry.symbol? assembly type.qualifiedName with
    | some symbol => ofSymbol style symbol
    | none => {}
  else {}

end Connections

end ClassDiagram
