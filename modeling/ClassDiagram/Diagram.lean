import ClassDiagram.Drawing
import ClassDiagram.Index

/-!
# Diagrams of indexed types

The diagram of a type of the index shows the connections that the finished index knows, and
the type's members.
-/

namespace ClassDiagram

namespace Index

/-- The drawing of a type in an assembly. -/
def drawingOf (style : DiagramStyle) (index : Index) (assembly : String)
    (type : IndexedType) : Drawing :=
  style.draw assembly type (.ofType style index.registry assembly type) type.rows

/-- The diagram of a type in an assembly. -/
def diagramOf (style : DiagramStyle) (index : Index) (assembly : String)
    (type : IndexedType) : String :=
  (index.drawingOf style assembly type).text

/-- The diagram of the type that answers to a name. -/
def diagram? (style : DiagramStyle) (index : Index) (assembly name : String) :
    Option String :=
  (index.type? assembly name).map (index.diagramOf style assembly)

end Index

/-- The diagram of a type of the codebase that a provider gives, if there is such a type. -/
def Provider.diagram (style : DiagramStyle) (provider : Provider) (assembly name : String) :
    Except Failure (Option String) :=
  (Index.ofProvider style provider).map fun index => index.diagram? style assembly name

end ClassDiagram
