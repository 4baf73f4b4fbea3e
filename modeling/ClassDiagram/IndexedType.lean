import ClassDiagram.Declaration
import ClassDiagram.Text.Alphabetical

/-!
# Types of an assembly

What is kept of a type: what its declarations say, put together, and the names of its base
type and interfaces. Types refer to each other by name only.
-/

namespace ClassDiagram

/-- What a type is drawn as. -/
inductive NodeKind where
  | plainClass
  | abstractClass
  | interface
  | struct
  | record
deriving DecidableEq

namespace NodeKind

/-- The kind of a declared type. Only a class can be abstract. -/
def ofDeclared (keyword : DeclarationKeyword) (modifiers : List String) : NodeKind :=
  match keyword with
  | .forClass => if modifiers.contains "abstract" then abstractClass else plainClass
  | .forInterface => interface
  | .forStruct => struct
  | .forRecord => record

/-- The words that introduce a node of this kind in a diagram. -/
def introduction : NodeKind → String
  | plainClass => "class"
  | abstractClass => "abstract class"
  | interface => "interface"
  | struct => "struct"
  | record => "record"

/-- Whether a type of this kind is a class. Only classes are drawn with lines to other
types. -/
def isClass : NodeKind → Bool
  | plainClass | abstractClass => true
  | interface | struct | record => false

end NodeKind

/-- Who may call a method, as far as it is declared. -/
inductive Access where
  /-- Only the type itself. -/
  | ownType
  | derivedTypes
  | sameAssembly
  | everyone
  | undeclared
deriving DecidableEq

namespace Access

/-- The access that a modifier grants, if it is about access. -/
def ofModifier? : String → Option Access
  | "private" => some ownType
  | "protected" => some derivedTypes
  | "internal" => some sameAssembly
  | "public" => some everyone
  | _ => none

/-- The access that the first modifier about access grants. -/
def ofModifiers (modifiers : List String) : Access :=
  (modifiers.findSome? ofModifier?).getD undeclared

/-- The sign in front of a method. A method without declared access is private in a type,
and has no sign in an interface. -/
def sign (access : Access) (kind : NodeKind) : String :=
  match access with
  | ownType => "-"
  | derivedTypes => "#"
  | sameAssembly => "~"
  | everyone => "+"
  | undeclared => if kind = .interface then "" else "-"

end Access

/-- A member that a diagram can show. -/
inductive Member where
  | field (name type : String)
  | property (name type : String)
  | method (name : String) (access : Access) (parameters : List Parameter)
      (returnType : String)
deriving DecidableEq

/-- A type of an assembly. -/
structure IndexedType where
  qualifiedName : String
  identifier : String
  kind : NodeKind
  /-- The namespace the type is in. -/
  scope : Option String := none
  /-- The entries of its base lists as written, generic arguments included. -/
  declaredBases : List String := []
  /-- The base type that its diagram shows. -/
  baseRef : Option String := none
  /-- The interfaces that its diagram shows. -/
  interfaceRefs : List String := []
  members : List Member := []
deriving DecidableEq

namespace IndexedType

/-- A type of which only the name and the kind are known. -/
def ofName (qualifiedName : String) (kind : NodeKind) : IndexedType :=
  { qualifiedName, identifier := Name.lastSegment qualifiedName, kind }

/-- Whether the type may be asked for by this name: the qualified one or the identifier. -/
def isCalled (type : IndexedType) (name : String) : Bool :=
  type.qualifiedName == name || type.identifier == name

end IndexedType

/-- The types of one project. -/
structure Assembly where
  name : String
  types : List IndexedType := []
deriving DecidableEq

namespace Assembly

/-- The qualified names of its types in alphabetical order. -/
def listing (assembly : Assembly) : List String :=
  Text.sortedNames (assembly.types.map (·.qualifiedName))

/-- The type of this name: the one with the qualified name or, if there is none, the first
one with the identifier. -/
def type? (assembly : Assembly) (name : String) : Option IndexedType :=
  (assembly.types.find? (·.qualifiedName == name)).or
    (assembly.types.find? (·.isCalled name))

end Assembly

end ClassDiagram
