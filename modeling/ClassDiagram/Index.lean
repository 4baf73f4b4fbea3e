import ClassDiagram.Codebase
import ClassDiagram.Connections
import ClassDiagram.Members

/-!
# The index of a codebase

The index lists, assembly by assembly, every type of a codebase. Projects become assemblies
in the order of their names; a project without a name, and one whose name was there before,
is left out. Within an assembly the documents are taken in the order of their names, and the
declarations of one type are put together wherever they stand.

A document that lacks its model, its tree or the root of it is skipped and counted.
-/

namespace ClassDiagram

/-- All that is known of a codebase. -/
structure Index where
  /-- The assemblies in the order of their names. -/
  assemblies : List Assembly := []
  registry : SymbolRegistry := {}
  /-- The number of documents left out for lack of a model, a tree or a root. -/
  skipped : Nat := 0

/-- The projects of which none has a name that came before. -/
def firstOfEachName : List Project → List Project
  | [] => []
  | project :: rest =>
    project :: (firstOfEachName rest).filter fun other => other.name ≠ project.name

/-- The projects that become assemblies, in the order of their names. -/
def indexedProjects (projects : List Project) : List Project :=
  firstOfEachName
    ((Text.sortedByName Project.name projects).filter fun project => project.name ≠ "")

namespace IndexedType

/-- The type as a declaration introduces it, before anything of its body is added. -/
def ofOccurrence (occurrence : Occurrence) : IndexedType where
  qualifiedName := occurrence.qualifiedName
  identifier := occurrence.declaration.identifier
  kind := .ofDeclared occurrence.declaration.keyword occurrence.declaration.modifiers
  scope := occurrence.scope

/-- The type with the members and bases of one more of its declarations. -/
def extend (type : IndexedType) (declaration : Declaration) : IndexedType :=
  { type with
    members := type.members ++ declaration.members.filterMap Member.ofDeclared?
    declaredBases := declaration.bases.foldl Name.addNew type.declaredBases }

/-- The type with the names that its diagram connects it to. -/
def withConnections (type : IndexedType) (connections : Connections) : IndexedType :=
  { type with baseRef := connections.base, interfaceRefs := connections.interfaces }

/-- The type with its members in the order in which they are listed. -/
def withSortedMembers (type : IndexedType) : IndexedType :=
  { type with members := Member.sorted type.members }

end IndexedType

/-- Changes the type of this qualified name, or puts a new one, changed in the same way,
behind the others. -/
def updateType (change : IndexedType → IndexedType) (new : IndexedType) :
    List IndexedType → List IndexedType
  | [] => [change new]
  | type :: rest =>
    if type.qualifiedName = new.qualifiedName then change type :: rest
    else type :: updateType change new rest

/-- An assembly as far as its documents have been taken in. -/
structure AssemblyDraft where
  types : List IndexedType := []
  registry : SymbolRegistry
  skipped : Nat

namespace AssemblyDraft

/-- Takes in a declaration. The document's model answers for the type if the declaration has
members and no model was entered before; the connections are those that are known by then. -/
def addOccurrence (style : DiagramStyle) (assembly : String) (model : SymbolModel)
    (draft : AssemblyDraft) (occurrence : Occurrence) : AssemblyDraft :=
  let registry :=
    if occurrence.declaration.members.isEmpty then draft.registry
    else draft.registry.add assembly occurrence.qualifiedName model
  let change (type : IndexedType) : IndexedType :=
    let type := type.extend occurrence.declaration
    type.withConnections (.ofType style registry assembly type)
  { draft with registry, types := updateType change (.ofOccurrence occurrence) draft.types }

/-- Takes in a document, or skips it. -/
def addDocument (style : DiagramStyle) (assembly : String) (draft : AssemblyDraft)
    (document : Document) : AssemblyDraft :=
  match document.model, document.occurrences? with
  | some model, some occurrences =>
    occurrences.foldl (addOccurrence style assembly model) draft
  | _, _ => { draft with skipped := draft.skipped + 1 }

end AssemblyDraft

namespace Index

/-- Takes in a project. -/
def addProject (style : DiagramStyle) (index : Index) (project : Project) : Index :=
  let documents := Text.sortedByName Document.name project.documents
  let draft := documents.foldl (AssemblyDraft.addDocument style project.name)
    { registry := index.registry, skipped := index.skipped }
  { assemblies := index.assemblies
      ++ [⟨project.name, draft.types.map IndexedType.withSortedMembers⟩]
    registry := draft.registry
    skipped := draft.skipped }

/-- The index of a codebase. -/
def ofProjects (style : DiagramStyle) (projects : List Project) : Index :=
  (indexedProjects projects).foldl (addProject style) {}

/-- The index of the codebase that a provider gives. -/
def ofProvider (style : DiagramStyle) (provider : Provider) : Except Failure Index :=
  provider.projects.map (ofProjects style)

/-- The assembly of this name. -/
def assembly? (index : Index) (name : String) : Option Assembly :=
  index.assemblies.find? (·.name == name)

/-- The names of the assemblies. -/
def names (index : Index) : List String :=
  index.assemblies.map (·.name)

/-- The names of an assembly's types in alphabetical order. -/
def listing? (index : Index) (assembly : String) : Option (List String) :=
  (index.assembly? assembly).map Assembly.listing

/-- The type of an assembly that answers to the name. -/
def type? (index : Index) (assembly name : String) : Option IndexedType :=
  (index.assembly? assembly).bind (·.type? name)

/-- The number of types. -/
def size (index : Index) : Nat :=
  (index.assemblies.flatMap (·.types)).length

end Index

end ClassDiagram
