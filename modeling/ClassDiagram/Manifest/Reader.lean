import ClassDiagram.Json.Reader
import ClassDiagram.Json.Schema
import ClassDiagram.Manifest.Basic

/-!
# Reading manifests

The records that a manifest consists of, each with its fields in their order:

* manifest: `projects`
* project: `name`, `symbols`, `documents`
* facts: `base`, `interfaces`
* document: `name`, `semantic`, `tree`
* source tree: `path`, `root`; root: `declarations`
* type: `kind`, `modifiers`, `identifier`, `namespace`, `base_list`, `members`, `nested`
* field: `modifiers`, `type`, `variables`
* property: `modifiers`, `identifier`, `type`
* method: `modifiers`, `identifier`, `parameters`, `return_type`; other members: `kind`
* parameter: `identifier`, `type`

A member is an object whose only field tells what kind of member it is. No more than 127
arrays and objects may be open at once, those in fields that are passed over not counted.
-/

namespace ClassDiagram

open Json (required defaulting nullable list? texts?)

/-- Reads a parameter. -/
def Parameter.ofJson? : Nat → Json → Option Parameter
  | 0, _ => none
  | _ + 1, json => do
    let [name, type] ← json.fields? ["identifier", "type"] | none
    some {
      name := ← required Json.text? name
      type := ← defaulting none (nullable Json.text?) type }

namespace DeclaredMember

/-- Reads what is declared of a field. -/
def fieldOfJson? : Nat → Json → Option DeclaredMember
  | 0, _ => none
  | budget + 1, json => do
    let [modifiers, type, names] ← json.fields? ["modifiers", "type", "variables"] | none
    some (field
      (← defaulting [] (texts? budget) modifiers)
      (← required Json.text? type)
      (← required (texts? budget) names))

/-- Reads what is declared of a property. -/
def propertyOfJson? : Nat → Json → Option DeclaredMember
  | 0, _ => none
  | budget + 1, json => do
    let [modifiers, name, type] ← json.fields? ["modifiers", "identifier", "type"] | none
    some (property
      (← defaulting [] (texts? budget) modifiers)
      (← required Json.text? name)
      (← required Json.text? type))

/-- Reads what is declared of a method. -/
def methodOfJson? : Nat → Json → Option DeclaredMember
  | 0, _ => none
  | budget + 1, json => do
    let [modifiers, name, parameters, returnType] ←
      json.fields? ["modifiers", "identifier", "parameters", "return_type"] | none
    some (method
      (← defaulting [] (texts? budget) modifiers)
      (← required Json.text? name)
      (← defaulting [] (list? Parameter.ofJson? budget) parameters)
      (← required Json.text? returnType))

/-- Reads what is declared of any other member. -/
def otherOfJson? : Nat → Json → Option DeclaredMember
  | 0, _ => none
  | _ + 1, json => do
    let [kind] ← json.fields? ["kind"] | none
    some (other (← required Json.text? kind))

/-- Reads a member. -/
def ofJson? : Nat → Json → Option DeclaredMember
  | budget + 1, .object [(some "field", payload)] => fieldOfJson? budget payload
  | budget + 1, .object [(some "property", payload)] => propertyOfJson? budget payload
  | budget + 1, .object [(some "method", payload)] => methodOfJson? budget payload
  | budget + 1, .object [(some "other", payload)] => otherOfJson? budget payload
  | _, _ => none

end DeclaredMember

/-- The keyword of this name. -/
def DeclarationKeyword.ofName? : String → Option DeclarationKeyword
  | "class" => some forClass
  | "interface" => some forInterface
  | "struct" => some forStruct
  | "record" => some forRecord
  | _ => none

/-- Reads the keyword of a declaration: its name, or an object with a field of that name and
nothing in it. -/
def DeclarationKeyword.ofJson? : Nat → Json → Option DeclarationKeyword
  | _, .text (some name) => ofName? name
  | _ + 1, .object [(some name, .null)] => ofName? name
  | _, _ => none

/-- Reads a type within a budget for its fields, of which the types nested in it are read by
`readNested`. -/
def Declaration.ofFields? (readNested : Json → Option (List Declaration)) (budget : Nat)
    (json : Json) : Option Declaration := do
  let [keyword, modifiers, identifier, ownNamespace, bases, members, nested] ←
    json.fields? ["kind", "modifiers", "identifier", "namespace", "base_list", "members",
      "nested"] | none
  some {
    keyword := ← required (DeclarationKeyword.ofJson? budget) keyword
    modifiers := ← defaulting [] (texts? budget) modifiers
    identifier := ← required Json.text? identifier
    ownNamespace := ← defaulting none (nullable Json.text?) ownNamespace
    bases := ← defaulting [] (texts? budget) bases
    members := ← defaulting [] (list? DeclaredMember.ofJson? budget) members
    nested := ← defaulting [] readNested nested }

/-- Reads a type. -/
def Declaration.ofJson? : Nat → Json → Option Declaration
  | 0, _ => none
  | 1, json => Declaration.ofFields? (fun _ => none) 0 json
  | budget + 2, json =>
    Declaration.ofFields? (Json.items? (Declaration.ofJson? budget)) (budget + 1) json

namespace SourceTree

/-- Reads the root of a source tree. -/
def rootOfJson? : Nat → Json → Option (List Declaration)
  | 0, _ => none
  | budget + 1, json => do
    let [declarations] ← json.fields? ["declarations"] | none
    defaulting [] (list? Declaration.ofJson? budget) declarations

/-- Reads a source tree. -/
def ofJson? : Nat → Json → Option SourceTree
  | 0, _ => none
  | budget + 1, json => do
    let [path, root] ← json.fields? ["path", "root"] | none
    some {
      path := ← defaulting "" Json.text? path
      root := ← defaulting none (nullable (rootOfJson? budget)) root }

end SourceTree

/-- Reads facts about a type. -/
def SymbolFacts.ofJson? : Nat → Json → Option SymbolFacts
  | 0, _ => none
  | budget + 1, json => do
    let [base, interfaces] ← json.fields? ["base", "interfaces"] | none
    some {
      base := ← defaulting none (nullable Json.text?) base
      interfaces := ← defaulting [] (texts? budget) interfaces }

/-- Reads a table of facts: an object with a field for each type. Of fields of one name the
last counts. -/
def SymbolTable.ofJson? : Nat → Json → Option SymbolTable
  | budget + 1, .object fields => do
    let entries ← fields.mapM fun (type, facts) => do
      some (← type, ← SymbolFacts.ofJson? budget facts)
    some (SymbolTable.ofList entries)
  | _, _ => none

/-- Reads a document. -/
def Manifest.DocumentEntry.ofJson? : Nat → Json → Option Manifest.DocumentEntry
  | 0, _ => none
  | budget + 1, json => do
    let [name, semantic, tree] ← json.fields? ["name", "semantic", "tree"] | none
    some {
      name := ← required Json.text? name
      semantic := ← defaulting true Json.bool? semantic
      tree := ← defaulting none (nullable (SourceTree.ofJson? budget)) tree }

/-- Reads a project. -/
def Manifest.ProjectEntry.ofJson? : Nat → Json → Option Manifest.ProjectEntry
  | 0, _ => none
  | budget + 1, json => do
    let [name, symbols, documents] ← json.fields? ["name", "symbols", "documents"] | none
    some {
      name := ← required Json.text? name
      symbols := ← defaulting (.ofList []) (SymbolTable.ofJson? budget) symbols
      documents := ← defaulting [] (list? Manifest.DocumentEntry.ofJson? budget) documents }

namespace Manifest

/-- The number of arrays and objects that may be open at once in a manifest. -/
def maxDepth : Nat := 127

/-- Reads a manifest within a budget. -/
def ofJsonWithin? : Nat → Json → Option Manifest
  | 0, _ => none
  | budget + 1, json => do
    let [projects] ← json.fields? ["projects"] | none
    some { projects := ← defaulting [] (list? Manifest.ProjectEntry.ofJson? budget) projects }

/-- Reads a manifest from a JSON value. -/
def ofJson? (json : Json) : Option Manifest :=
  ofJsonWithin? maxDepth json

/-- Reads a manifest from a text. -/
def ofText? (text : String) : Option Manifest :=
  (Json.ofText? text).bind ofJson?

/-- Reads a manifest from bytes. -/
def ofBytes? (bytes : List UInt8) : Option Manifest :=
  (Json.ofBytes? bytes).bind ofJson?

end Manifest

end ClassDiagram
