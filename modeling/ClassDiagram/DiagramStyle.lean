import ClassDiagram.IndexedType

/-!
# Styles of diagrams

Two things can be chosen: how the node of a type is labelled, and which base types are the
root of everything, so that no line is drawn to them.
-/

namespace ClassDiagram

/-- How the node of a type is labelled. -/
inductive LabelStyle where
  /-- With its namespace. -/
  | byNamespace
  /-- With its assembly. -/
  | byAssembly
  /-- With the identifier alone. -/
  | bare
deriving DecidableEq

namespace LabelStyle

/-- The style called by a name, in which upper and lower case count alike. -/
def ofName? (name : String) : Option LabelStyle :=
  match String.ofList (Text.lowerCase name) with
  | "namespace" => some byNamespace
  | "assembly" => some byAssembly
  | "bare" => some bare
  | _ => none

/-- What people are told who ask for a style that there is not. -/
def unknown (name : String) : String :=
  "Unknown name qualifier: " ++ name

/-- The label of a type in an assembly. An assembly without a name adds nothing to it. -/
def label (labels : LabelStyle) (assembly : String) (type : IndexedType) : String :=
  match labels with
  | byNamespace => type.qualifiedName
  | byAssembly => Name.inNamespace (some assembly) type.identifier
  | bare => type.identifier

end LabelStyle

/-- What can be chosen about diagrams. -/
structure DiagramStyle where
  labels : LabelStyle := .byNamespace
  /-- Base types that no line is drawn to. -/
  roots : List String := ["object", "Object", "System.Object"]
deriving DecidableEq

namespace DiagramStyle

/-- The style with one more root type. -/
def addRoot (style : DiagramStyle) (name : String) : DiagramStyle :=
  { style with roots := Name.addNew style.roots name }

/-- Whether the name is that of a root type. -/
def isRoot (style : DiagramStyle) (name : String) : Bool :=
  style.roots.contains name

end DiagramStyle

end ClassDiagram
