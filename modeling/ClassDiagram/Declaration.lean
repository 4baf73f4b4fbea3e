import ClassDiagram.Name

/-!
# Declarations

What the source text of a codebase declares, as far as a class diagram can show it: types
with their modifiers, their base lists as written, their members and the types nested in
them. Nothing is resolved yet.

`Occurrence.all` lists every type of a source tree, the nested ones behind the type that
holds them, each with the namespace that it is in.
-/

namespace ClassDiagram

/-- The keyword that declares a type. -/
inductive DeclarationKeyword where
  | forClass
  | forInterface
  | forStruct
  | forRecord
deriving DecidableEq

/-- A parameter of a method. Its type is unknown if it could not be told from the source. -/
structure Parameter where
  name : String
  type : Option String := none
deriving DecidableEq

/-- A member as declared in the body of a type. -/
inductive DeclaredMember where
  /-- One declaration may introduce several variables. -/
  | field (modifiers : List String) (type : String) (names : List String)
  | property (modifiers : List String) (name type : String)
  | method (modifiers : List String) (name : String) (parameters : List Parameter)
      (returnType : String)
  /-- Constructors, events, operators and anything else. -/
  | other (kind : String)
deriving DecidableEq

namespace DeclaredMember

/-- The member with other modifiers. One that is neither field, property nor method has
none. -/
def modified (modifiers : List String) : DeclaredMember → DeclaredMember
  | field _ type names => field modifiers type names
  | property _ name type => property modifiers name type
  | method _ name parameters returnType => method modifiers name parameters returnType
  | other kind => other kind

/-- The method with one more parameter. Other members have no parameters. -/
def addParameter (parameter : Parameter) : DeclaredMember → DeclaredMember
  | method modifiers name parameters returnType =>
    method modifiers name (parameters ++ [parameter]) returnType
  | member => member

end DeclaredMember

/-- A declaration of a type. -/
structure Declaration where
  keyword : DeclarationKeyword
  modifiers : List String := []
  identifier : String
  /-- The namespace written at this declaration. A nested type without one of its own is in
  the namespace of the type around it. -/
  ownNamespace : Option String := none
  /-- Base class and interfaces as written, generic arguments included. -/
  bases : List String := []
  members : List DeclaredMember := []
  nested : List Declaration := []

/-- Whether the modifier is written at the declaration. -/
def Declaration.isModifiedBy (declaration : Declaration) (modifier : String) : Bool :=
  declaration.modifiers.contains modifier

/-- A document as parsed. The root is missing if parsing did not come to an end. -/
structure SourceTree where
  path : String := ""
  root : Option (List Declaration) := none

/-- A declaration where it stands: with the namespace it is in. -/
structure Occurrence where
  declaration : Declaration
  scope : Option String

namespace Occurrence

/-- The name of the type in its namespace. -/
def qualifiedName (occurrence : Occurrence) : String :=
  Name.inNamespace occurrence.scope occurrence.declaration.identifier

mutual

/-- A declaration in a namespace, followed by the types nested in it. -/
def within (scope : Option String) : Declaration → List Occurrence
  | ⟨keyword, modifiers, identifier, ownNamespace, bases, members, nested⟩ =>
    let inner := ownNamespace.or scope
    ⟨⟨keyword, modifiers, identifier, ownNamespace, bases, members, nested⟩, inner⟩
      :: allWithin inner nested

/-- Declarations in a namespace, each followed by the types nested in it. -/
def allWithin (scope : Option String) : List Declaration → List Occurrence
  | [] => []
  | declaration :: rest => within scope declaration ++ allWithin scope rest

end

/-- Every type of a source tree, in the order of the source. -/
def all (declarations : List Declaration) : List Occurrence :=
  allWithin none declarations

end Occurrence

end ClassDiagram
