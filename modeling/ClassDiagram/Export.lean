import ClassDiagram.Index
import ClassDiagram.Json.Writer

/-!
# Indexes as JSON

What the index says of assemblies and types, with the fields of every object in a fixed
order.
-/

namespace ClassDiagram

/-- The name under which a kind of type is written. -/
def NodeKind.exportName : NodeKind → String
  | plainClass => "class"
  | abstractClass => "abstract_class"
  | interface => "interface"
  | struct => "struct"
  | record => "record"

/-- The name under which an access is written. -/
def Access.exportName : Access → String
  | ownType => "private"
  | derivedTypes => "protected"
  | sameAssembly => "internal"
  | everyone => "public"
  | undeclared => "none"

/-- A parameter of an indexed method. -/
def Parameter.exported (parameter : Parameter) : Json :=
  .ofFields [("name", .ofString parameter.name), ("type", .ofString? parameter.type)]

/-- A member of an indexed type. -/
def Member.exported : Member → Json
  | field name type =>
    .ofFields [
      ("member", .ofString "field"), ("name", .ofString name), ("type", .ofString type)]
  | property name type =>
    .ofFields [
      ("member", .ofString "property"), ("name", .ofString name), ("type", .ofString type)]
  | method name access parameters returnType =>
    .ofFields [
      ("member", .ofString "method"),
      ("name", .ofString name),
      ("visibility", .ofString access.exportName),
      ("params", .array (parameters.map Parameter.exported)),
      ("return_type", .ofString returnType)]

/-- An indexed type. -/
def IndexedType.exported (type : IndexedType) : Json :=
  .ofFields [
    ("qualified_name", .ofString type.qualifiedName),
    ("identifier", .ofString type.identifier),
    ("kind", .ofString type.kind.exportName),
    ("namespace", .ofString? type.scope),
    ("declared_bases", .ofStrings type.declaredBases),
    ("base_type_ref", .ofString? type.baseRef),
    ("interface_refs", .ofStrings type.interfaceRefs),
    ("members", .array (type.members.map Member.exported))]

/-- An assembly with its types. -/
def Assembly.exported (assembly : Assembly) : Json :=
  .ofFields [
    ("name", .ofString assembly.name),
    ("types", .array (assembly.types.map IndexedType.exported))]

namespace Index

/-- The index with all assemblies. -/
def exported (index : Index) : Json :=
  .ofFields [("assemblies", .array (index.assemblies.map Assembly.exported))]

/-- A list of the names of assemblies. -/
def exportedNames (names : List String) : Json :=
  .ofFields [("assemblies", .ofStrings names), ("total", .ofNat names.length)]

/-- A list of the names of an assembly's classes. -/
def exportedListing (assembly : String) (names : List String) : Json :=
  .ofFields [
    ("assembly", .ofString assembly),
    ("classes", .ofStrings names),
    ("total", .ofNat names.length)]

end Index

end ClassDiagram
