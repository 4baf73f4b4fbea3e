import ClassDiagram.Json.Writer
import ClassDiagram.Manifest.Basic

/-!
# Writing manifests

Every record is written as an object with all its fields in their order, except that a
parameter without a type, a declaration without a namespace of its own and a project without
facts leave the field out.
-/

namespace ClassDiagram

/-- Writes a parameter. -/
def Parameter.toJson (parameter : Parameter) : Json :=
  .ofFields (("identifier", .ofString parameter.name)
    :: (parameter.type.map fun type => ("type", Json.ofString type)).toList)

/-- Writes a member. -/
def DeclaredMember.toJson : DeclaredMember → Json
  | field modifiers type names =>
    .ofFields [("field", .ofFields [
      ("modifiers", .ofStrings modifiers),
      ("type", .ofString type),
      ("variables", .ofStrings names)])]
  | property modifiers name type =>
    .ofFields [("property", .ofFields [
      ("modifiers", .ofStrings modifiers),
      ("identifier", .ofString name),
      ("type", .ofString type)])]
  | method modifiers name parameters returnType =>
    .ofFields [("method", .ofFields [
      ("modifiers", .ofStrings modifiers),
      ("identifier", .ofString name),
      ("parameters", .array (parameters.map Parameter.toJson)),
      ("return_type", .ofString returnType)])]
  | other kind => .ofFields [("other", .ofFields [("kind", .ofString kind)])]

/-- The name of a keyword. -/
def DeclarationKeyword.name : DeclarationKeyword → String
  | forClass => "class"
  | forInterface => "interface"
  | forStruct => "struct"
  | forRecord => "record"

namespace Declaration

mutual

/-- Writes a type. -/
def toJson : Declaration → Json
  | ⟨keyword, modifiers, identifier, ownNamespace, bases, members, nested⟩ =>
    .ofFields (
      [("kind", .ofString keyword.name),
       ("modifiers", .ofStrings modifiers),
       ("identifier", .ofString identifier)]
      ++ (ownNamespace.map fun space => ("namespace", Json.ofString space)).toList
      ++ [("base_list", .ofStrings bases),
          ("members", .array (members.map DeclaredMember.toJson)),
          ("nested", .array (toJsonItems nested))])

/-- Writes a list of types. -/
def toJsonItems : List Declaration → List Json
  | [] => []
  | declaration :: rest => toJson declaration :: toJsonItems rest

end

end Declaration

/-- Writes a source tree. -/
def SourceTree.toJson (tree : SourceTree) : Json :=
  .ofFields [
    ("path", .ofString tree.path),
    ("root", match tree.root with
      | some declarations =>
        .ofFields [("declarations", .array (Declaration.toJsonItems declarations))]
      | none => .null)]

/-- Writes facts about a type. -/
def SymbolFacts.toJson (facts : SymbolFacts) : Json :=
  .ofFields [("base", .ofString? facts.base), ("interfaces", .ofStrings facts.interfaces)]

/-- Writes a table of facts. -/
def SymbolTable.toJson (table : SymbolTable) : Json :=
  .ofFields (table.entries.map fun entry => (entry.1, entry.2.toJson))

/-- Writes a document. -/
def Manifest.DocumentEntry.toJson (document : Manifest.DocumentEntry) : Json :=
  .ofFields [
    ("name", .ofString document.name),
    ("semantic", .bool document.semantic),
    ("tree", match document.tree with
      | some tree => tree.toJson
      | none => .null)]

/-- Writes a project. -/
def Manifest.ProjectEntry.toJson (project : Manifest.ProjectEntry) : Json :=
  .ofFields (
    [("name", .ofString project.name)]
    ++ (if project.symbols.entries.isEmpty then [] else [("symbols", project.symbols.toJson)])
    ++ [("documents", .array (project.documents.map Manifest.DocumentEntry.toJson))])

namespace Manifest

/-- Writes a manifest. -/
def toJson (manifest : Manifest) : Json :=
  .ofFields [("projects", .array (manifest.projects.map Manifest.ProjectEntry.toJson))]

/-- The text of a manifest. -/
def text (manifest : Manifest) : String :=
  manifest.toJson.compact

end Manifest

end ClassDiagram
