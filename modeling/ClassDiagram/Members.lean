import ClassDiagram.IndexedType

/-!
# Members of a type

Which declared members a diagram shows, in which order, and what their rows say. Fields
come before properties and properties before methods; within each group they are in
alphabetical order, and members of one name stay in the order of the source.
-/

namespace ClassDiagram

namespace Member

/-- The name of the member. -/
def name : Member → String
  | field name _ | property name _ | method name _ _ _ => name

/-- The place of the member's group: fields, properties, methods. -/
def group : Member → Nat
  | field _ _ => 0
  | property _ _ => 1
  | method _ _ _ _ => 2

/-- The member that a declaration introduces, if a diagram can show it. Of a field with
several variables it is the first. -/
def ofDeclared? : DeclaredMember → Option Member
  | .field _ type names => names.head?.map (field · type)
  | .property _ name type => some (property name type)
  | .method modifiers name parameters returnType =>
    some (method name (.ofModifiers modifiers) parameters returnType)
  | .other _ => none

/-- The order of members: by group, then by name. -/
def order (a b : Member) : Ordering :=
  (compare a.group b.group).then (Text.alphabetical a.name b.name)

/-- The members in order; overloads keep the order they had. -/
def sorted (members : List Member) : List Member :=
  members.mergeSort fun a b => (order a b).isLE

end Member

/-- The row of a field or property. -/
structure ValueRow where
  name : String
  type : String
deriving DecidableEq

/-- The row of a method. -/
structure MethodRow where
  sign : String
  name : String
  signature : String
  returnType : String
deriving DecidableEq

/-- The rows of a type in a diagram. -/
structure MemberRows where
  fields : List ValueRow := []
  properties : List ValueRow := []
  methods : List MethodRow := []
deriving DecidableEq

namespace MemberRows

/-- The number of rows. -/
def size (rows : MemberRows) : Nat :=
  rows.fields.length + rows.properties.length + rows.methods.length

/-- Whether there are no rows. -/
def isEmpty (rows : MemberRows) : Bool :=
  rows.fields.isEmpty && rows.properties.isEmpty && rows.methods.isEmpty

end MemberRows

/-- The parameters of a method as its row shows them. Those of unknown type are left out. -/
def signatureOf (parameters : List Parameter) : String :=
  ", ".intercalate (parameters.filterMap fun parameter =>
    parameter.type.map fun type => parameter.name ++ " : " ++ type)

namespace Member

/-- The row of a field. -/
def fieldRow? : Member → Option ValueRow
  | field name type => some ⟨name, type⟩
  | _ => none

/-- The row of a property. -/
def propertyRow? : Member → Option ValueRow
  | property name type => some ⟨name, type⟩
  | _ => none

/-- The row of a method in a type of a kind. -/
def methodRow? (kind : NodeKind) : Member → Option MethodRow
  | method name access parameters returnType =>
    some ⟨access.sign kind, name, signatureOf parameters, returnType⟩
  | _ => none

end Member

/-- The rows of a type, in order. -/
def IndexedType.rows (type : IndexedType) : MemberRows :=
  let members := Member.sorted type.members
  { fields := members.filterMap Member.fieldRow?
    properties := members.filterMap Member.propertyRow?
    methods := members.filterMap (Member.methodRow? type.kind) }

end ClassDiagram
