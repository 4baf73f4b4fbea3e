import ClassDiagram.Manifest.Reader
import ClassDiagram.Proofs.RecordFields

/-!
# Where records stand in a manifest

A manifest is a record that holds projects, which hold documents, and so on down to the parameters
of methods and the types nested in types. `Manifest.Place` says at which places of a JSON value a
record is looked for, however deep, and how many arrays and objects may still be opened there.

A reader looks at such a place once. So what is read of the whole follows from what is read of the
record (`Manifest.Place.passes`): if there is nothing to read at the place, there is nothing to read
at all, and if the same record is read, the same manifest is. This is put together from one lemma
for each way further in, of which the one for the fields of records has a case for each field that
holds records.
-/

namespace ClassDiagram

/-- Where there is no `null`, there is a value to read. -/
theorem Json.nullable_of_ne {α : Type} {read : Json → Option α} {json : Json}
    (h : json ≠ .null) : nullable read json = (read json).map some := by
  cases json with
  | null => exact absurd rfl h
  | bool | number | text | array | object => rfl

/-- A type and the types nested in it, of which each costs one of the budget. -/
theorem Declaration.ofJson?_succ (budget : Nat) (json : Json) :
    Declaration.ofJson? (budget + 1) json
      = Declaration.ofFields? (Json.list? Declaration.ofJson? budget) budget json := by
  cases budget with
  | zero => rfl
  | succ budget => rfl

namespace Manifest

open Json (list?)

/-! ## Records -/

/-- The kinds of records that a manifest consists of. The payloads of members are records of four
kinds. -/
inductive RecordKind where
  | manifest
  | project
  | facts
  | document
  | tree
  | root
  | type
  | field
  | property
  | method
  | other
  | parameter

/-- A field of a record. -/
structure RecordField where
  name : String
  /-- What a missing field stands for. A field without it must be there. -/
  default : Option Json

namespace RecordKind

/-- The fields of a record in their order. -/
def fields : RecordKind → List RecordField
  | manifest => [⟨"projects", some (.array [])⟩]
  | project => [⟨"name", none⟩, ⟨"symbols", some (.object [])⟩, ⟨"documents", some (.array [])⟩]
  | facts => [⟨"base", some .null⟩, ⟨"interfaces", some (.array [])⟩]
  | document => [⟨"name", none⟩, ⟨"semantic", some (.bool true)⟩, ⟨"tree", some .null⟩]
  | tree => [⟨"path", some (.ofString "")⟩, ⟨"root", some .null⟩]
  | root => [⟨"declarations", some (.array [])⟩]
  | type => [⟨"kind", none⟩, ⟨"modifiers", some (.array [])⟩, ⟨"identifier", none⟩,
      ⟨"namespace", some .null⟩, ⟨"base_list", some (.array [])⟩, ⟨"members", some (.array [])⟩,
      ⟨"nested", some (.array [])⟩]
  | field => [⟨"modifiers", some (.array [])⟩, ⟨"type", none⟩, ⟨"variables", none⟩]
  | property => [⟨"modifiers", some (.array [])⟩, ⟨"identifier", none⟩, ⟨"type", none⟩]
  | method => [⟨"modifiers", some (.array [])⟩, ⟨"identifier", none⟩,
      ⟨"parameters", some (.array [])⟩, ⟨"return_type", none⟩]
  | other => [⟨"kind", none⟩]
  | parameter => [⟨"identifier", none⟩, ⟨"type", some .null⟩]

/-- The names that the record knows. -/
def names (kind : RecordKind) : List String :=
  kind.fields.map (·.name)

/-- What is read of a record. -/
def Value : RecordKind → Type
  | manifest => Manifest
  | project => ProjectEntry
  | facts => SymbolFacts
  | document => DocumentEntry
  | tree => SourceTree
  | root => List Declaration
  | type => Declaration
  | field | property | method | other => DeclaredMember
  | parameter => Parameter

/-- Reads a record within a budget. -/
def read : (kind : RecordKind) → Nat → Json → Option kind.Value
  | manifest => ofJsonWithin?
  | project => ProjectEntry.ofJson?
  | facts => SymbolFacts.ofJson?
  | document => DocumentEntry.ofJson?
  | tree => SourceTree.ofJson?
  | root => SourceTree.rootOfJson?
  | type => Declaration.ofJson?
  | field => DeclaredMember.fieldOfJson?
  | property => DeclaredMember.propertyOfJson?
  | method => DeclaredMember.methodOfJson?
  | other => DeclaredMember.otherOfJson?
  | parameter => Parameter.ofJson?

/-- A record is read from the values of its fields. -/
theorem exists_read_succ (kind : RecordKind) (budget : Nat) :
    ∃ ofValues : List (Option Json) → Option kind.Value,
      ∀ json, kind.read (budget + 1) json = (json.fields? kind.names).bind ofValues := by
  cases kind with
  | manifest => exact ⟨_, fun json => by rw [read, ofJsonWithin?]; rfl⟩
  | project => exact ⟨_, fun json => by rw [read, ProjectEntry.ofJson?]; rfl⟩
  | facts => exact ⟨_, fun json => by rw [read, SymbolFacts.ofJson?]; rfl⟩
  | document => exact ⟨_, fun json => by rw [read, DocumentEntry.ofJson?]; rfl⟩
  | tree => exact ⟨_, fun json => by rw [read, SourceTree.ofJson?]; rfl⟩
  | root => exact ⟨_, fun json => by rw [read, SourceTree.rootOfJson?]; rfl⟩
  | type => exact ⟨_, fun json => by rw [read, Declaration.ofJson?_succ, Declaration.ofFields?]; rfl⟩
  | field => exact ⟨_, fun json => by rw [read, DeclaredMember.fieldOfJson?]; rfl⟩
  | property => exact ⟨_, fun json => by rw [read, DeclaredMember.propertyOfJson?]; rfl⟩
  | method => exact ⟨_, fun json => by rw [read, DeclaredMember.methodOfJson?]; rfl⟩
  | other => exact ⟨_, fun json => by rw [read, DeclaredMember.otherOfJson?]; rfl⟩
  | parameter => exact ⟨_, fun json => by rw [read, Parameter.ofJson?]; rfl⟩

/-- **What is read of a record depends on the values of its fields only.** -/
theorem read_congr {kind : RecordKind} {json' json : Json}
    (h : json'.fields? kind.names = json.fields? kind.names) (budget : Nat) :
    kind.read budget json' = kind.read budget json := by
  cases budget with
  | zero => cases kind <;> rfl
  | succ budget =>
      obtain ⟨ofValues, hread⟩ := kind.exists_read_succ budget
      rw [hread, hread, h]

/-- What has no fields to read is no record. -/
theorem read_eq_none {kind : RecordKind} {json : Json} (h : json.fields? kind.names = none)
    (budget : Nat) : kind.read budget json = none := by
  cases budget with
  | zero => cases kind <;> rfl
  | succ budget =>
      obtain ⟨ofValues, hread⟩ := kind.exists_read_succ budget
      rw [hread, h]
      rfl

theorem nodup_names (kind : RecordKind) : kind.names.Nodup := by
  cases kind <;> decide

end RecordKind

/-! ## What records are held in -/

/-- What stands at a place of a manifest on the way down to a record. -/
inductive Shape where
  | record (kind : RecordKind)
  | list (item : Shape)
  /-- An object whose only field tells the kind of a member. -/
  | member
  /-- An object with the facts about each type. -/
  | table

namespace Shape

/-- What is read of such a value. -/
def Value : Shape → Type
  | record kind => kind.Value
  | list item => List item.Value
  | member => DeclaredMember
  | table => SymbolTable

/-- Reads such a value within a budget. -/
def read : (shape : Shape) → Nat → Json → Option shape.Value
  | record kind => kind.read
  | list item => list? item.read
  | member => DeclaredMember.ofJson?
  | table => SymbolTable.ofJson?

end Shape

/-- The record that a member of this tag has for its payload. -/
inductive RecordKind.Tagged : String → RecordKind → Prop where
  | field : Tagged "field" .field
  | property : Tagged "property" .property
  | method : Tagged "method" .method
  | other : Tagged "other" .other

/-- A record has a field, between those of the given names, in which there are records. -/
inductive RecordKind.Holds : RecordKind → List String → String → List String → Shape → Prop where
  | projects : Holds .manifest [] "projects" [] (.list (.record .project))
  | symbols : Holds .project ["name"] "symbols" ["documents"] .table
  | documents : Holds .project ["name", "symbols"] "documents" [] (.list (.record .document))
  | tree : Holds .document ["name", "semantic"] "tree" [] (.record .tree)
  | root : Holds .tree ["path"] "root" [] (.record .root)
  | declarations : Holds .root [] "declarations" [] (.list (.record .type))
  | members : Holds .type ["kind", "modifiers", "identifier", "namespace", "base_list"] "members"
      ["nested"] (.list .member)
  | nested : Holds .type ["kind", "modifiers", "identifier", "namespace", "base_list", "members"]
      "nested" [] (.list (.record .type))
  | parameters : Holds .method ["modifiers", "identifier"] "parameters" ["return_type"]
      (.list (.record .parameter))

/-- **Where a record may stand.** Whatever is put in the place, it is looked for at this place of
the whole and as a record of this kind. From the budget for the whole the given room is left for
it. -/
inductive Place (hole : RecordKind) (room : Nat) : Shape → Nat → (Json → Json) → Prop where
  | here : Place hole room (.record hole) room id
  /-- Under the name of a field. -/
  | inField {kind : RecordKind} {before after : List String} {name : String} {shape : Shape}
      {budget : Nat} {place : Json → Json} (front back : List (Option String × Json)) :
      kind.Holds before name after shape → Place hole room shape budget place →
      Place hole room (.record kind) (budget + 1) fun json =>
        .object (front ++ (some name, place json) :: back)
  /-- At the place of a field, in a record that is written as an array. -/
  | inPosition {kind : RecordKind} {before after : List String} {name : String} {shape : Shape}
      {budget : Nat} {place : Json → Json} (front back : List Json) :
      kind.Holds before name after shape → front.length = before.length →
      Place hole room shape budget place →
      Place hole room (.record kind) (budget + 1) fun json => .array (front ++ place json :: back)
  | inItem {item : Shape} {budget : Nat} {place : Json → Json} (front back : List Json) :
      Place hole room item budget place →
      Place hole room (.list item) (budget + 1) fun json => .array (front ++ place json :: back)
  | inMember {tag : String} {kind : RecordKind} {budget : Nat} {place : Json → Json} :
      kind.Tagged tag → Place hole room (.record kind) budget place →
      Place hole room .member (budget + 1) fun json => .object [(some tag, place json)]
  | inTable {budget : Nat} {place : Json → Json} (front back : List (Option String × Json))
      (type : Option String) :
      Place hole room (.record .facts) budget place →
      Place hole room .table (budget + 1) fun json =>
        .object (front ++ (type, place json) :: back)

/-! ## Reading through a place -/

section

variable {α β γ : Type} {inner : Json → Option α} {outer : Json → Option β}

/-- Of the value that the first reader is for, the second one uses only what the first one reads,
and needs it. -/
def Passes (inner : Json → Option α) (outer : Json → Option β) : Prop :=
  ∃ finish : α → Option β, ∀ json, json ≠ .null → outer json = (inner json).bind finish

theorem Passes.here (finish : α → Option β) : Passes inner fun json => (inner json).bind finish :=
  ⟨finish, fun _ _ => rfl⟩

theorem Passes.self : Passes inner inner :=
  ⟨some, fun _ _ => (Option.bind_fun_some _).symm⟩

theorem Passes.nullable (finish : Option α → Option β) :
    Passes inner fun json => (Json.nullable inner json).bind finish := by
  refine ⟨fun value => finish (some value), fun json hjson => ?_⟩
  show (Json.nullable inner json).bind finish = _
  rw [Json.nullable_of_ne hjson, Option.bind_map]
  rfl

theorem Passes.none : Passes inner fun _ => (none : Option β) :=
  ⟨fun _ => .none, fun _ _ => by rw [Option.bind_fun_none]⟩

/-- What is read elsewhere may come first. -/
theorem Passes.after (elsewhere : Option γ) {outer : γ → Json → Option β}
    (h : ∀ value, Passes inner (outer value)) :
    Passes inner fun json => elsewhere.bind fun value => outer value json := by
  cases elsewhere with
  | none => exact .none
  | some value => exact h value

/-- What is passed on by a reader further in is passed on by the one around it. -/
theorem Passes.comp {outer : Json → Option β} {outermost : Json → Option γ} {place : Json → Json}
    (hplace : ∀ json, json ≠ .null → place json ≠ .null) (houter : Passes outer outermost)
    (hinner : Passes inner fun json => outer (place json)) :
    Passes inner fun json => outermost (place json) := by
  obtain ⟨finish, houter⟩ := houter
  obtain ⟨pass, hinner⟩ := hinner
  refine ⟨fun value => (pass value).bind finish, fun json hjson => ?_⟩
  show outermost (place json) = _
  rw [houter _ (hplace json hjson), show outer (place json) = _ from hinner json hjson,
    Option.bind_assoc]

/-- It is enough to know the values of a record's fields. -/
theorem Passes.fields {names : List String} {around : Json → Json}
    {values : Json → List (Option Json)} {ofValues : List (Option Json) → Option β}
    (hvalues : ∀ json, (around json).fields? names = some (values json))
    (h : Passes inner fun json => ofValues (values json)) :
    Passes inner fun json => ((around json).fields? names).bind ofValues := by
  obtain ⟨finish, h⟩ := h
  refine ⟨finish, fun json hjson => ?_⟩
  show ((around json).fields? names).bind ofValues = _
  rw [hvalues, ← h json hjson]
  rfl

end

namespace RecordKind.Holds

variable {kind : RecordKind} {before after : List String} {name : String} {shape : Shape}

theorem names_eq (h : kind.Holds before name after shape) :
    kind.names = before ++ name :: after := by
  cases h <;> rfl

/-- **A record is read from what is read of each of its fields.** -/
theorem passes (h : kind.Holds before name after shape) (budget : Nat) {around : Json → Json}
    (haround : Json.OneOfFields before name after around) :
    Passes (shape.read budget) fun json => kind.read (budget + 1) (around json) := by
  rcases haround with hnone | ⟨left, right, hleft, hright, hfields⟩
  · have hread : ∀ json, kind.read (budget + 1) (around json) = none := fun json =>
      kind.read_eq_none (h.names_eq ▸ hnone json) _
    simp only [hread]
    exact .none
  · -- the fields in front of this one are read first, and those behind it end what is read of it
    cases h with
    | projects =>
        match left, right, hleft, hright with
        | [], [], _, _ =>
            show Passes (list? ProjectEntry.ofJson? budget) fun json =>
              ofJsonWithin? (budget + 1) (around json)
            simp only [ofJsonWithin?]
            exact .fields hfields (.here _)
    | symbols =>
        match left, right, hleft, hright with
        | [_], [_], _, _ =>
            show Passes (SymbolTable.ofJson? budget) fun json =>
              ProjectEntry.ofJson? (budget + 1) (around json)
            simp only [ProjectEntry.ofJson?]
            exact .fields hfields (.after _ fun _ => .here _)
    | documents =>
        match left, right, hleft, hright with
        | [_, _], [], _, _ =>
            show Passes (list? DocumentEntry.ofJson? budget) fun json =>
              ProjectEntry.ofJson? (budget + 1) (around json)
            simp only [ProjectEntry.ofJson?]
            exact .fields hfields (.after _ fun _ => .after _ fun _ => .here _)
    | tree =>
        match left, right, hleft, hright with
        | [_, _], [], _, _ =>
            show Passes (SourceTree.ofJson? budget) fun json =>
              DocumentEntry.ofJson? (budget + 1) (around json)
            simp only [DocumentEntry.ofJson?]
            exact .fields hfields (.after _ fun _ => .after _ fun _ => .nullable _)
    | root =>
        match left, right, hleft, hright with
        | [_], [], _, _ =>
            show Passes (SourceTree.rootOfJson? budget) fun json =>
              SourceTree.ofJson? (budget + 1) (around json)
            simp only [SourceTree.ofJson?]
            exact .fields hfields (.after _ fun _ => .nullable _)
    | declarations =>
        match left, right, hleft, hright with
        | [], [], _, _ =>
            show Passes (list? Declaration.ofJson? budget) fun json =>
              SourceTree.rootOfJson? (budget + 1) (around json)
            simp only [SourceTree.rootOfJson?]
            exact .fields hfields .self
    | members =>
        match left, right, hleft, hright with
        | [_, _, _, _, _], [_], _, _ =>
            show Passes (list? DeclaredMember.ofJson? budget) fun json =>
              Declaration.ofJson? (budget + 1) (around json)
            simp only [Declaration.ofJson?_succ, Declaration.ofFields?]
            exact .fields hfields (.after _ fun _ => .after _ fun _ => .after _ fun _ =>
              .after _ fun _ => .after _ fun _ => .here _)
    | nested =>
        match left, right, hleft, hright with
        | [_, _, _, _, _, _], [], _, _ =>
            show Passes (list? Declaration.ofJson? budget) fun json =>
              Declaration.ofJson? (budget + 1) (around json)
            simp only [Declaration.ofJson?_succ, Declaration.ofFields?]
            exact .fields hfields (.after _ fun _ => .after _ fun _ => .after _ fun _ =>
              .after _ fun _ => .after _ fun _ => .after _ fun _ => .here _)
    | parameters =>
        match left, right, hleft, hright with
        | [_, _], [_], _, _ =>
            show Passes (list? Parameter.ofJson? budget) fun json =>
              DeclaredMember.methodOfJson? (budget + 1) (around json)
            simp only [DeclaredMember.methodOfJson?]
            exact .fields hfields (.after _ fun _ => .after _ fun _ => .here _)

end RecordKind.Holds

namespace Place

variable {hole : RecordKind} {room : Nat} {shape : Shape} {budget : Nat} {place : Json → Json}

theorem ne_null (h : Place hole room shape budget place) {json : Json} (hjson : json ≠ .null) :
    place json ≠ .null := by
  cases h with
  | here => exact hjson
  | inField | inPosition | inItem | inMember | inTable => exact Json.noConfusion

/-- An item is read as it is wherever it stands in a list. -/
theorem passes_item (item : Shape) (budget : Nat) (front back : List Json) :
    Passes (item.read budget) fun json =>
      Shape.read (.list item) (budget + 1) (.array (front ++ json :: back)) := by
  show Passes (item.read budget) fun json =>
    list? item.read (budget + 1) (.array (front ++ json :: back))
  simp only [list?, Json.items?, List.mapM_append, List.mapM_cons, bind_assoc]
  exact .after _ fun _ => .here _

/-- Facts are read as they are wherever they stand in a table. -/
theorem passes_facts (budget : Nat) (front back : List (Option String × Json))
    (type : Option String) :
    Passes (RecordKind.read .facts budget) fun json =>
      Shape.read .table (budget + 1) (.object (front ++ (type, json) :: back)) := by
  show Passes (SymbolFacts.ofJson? budget) fun json =>
    SymbolTable.ofJson? (budget + 1) (.object (front ++ (type, json) :: back))
  simp only [SymbolTable.ofJson?, List.mapM_append, List.mapM_cons, bind_assoc]
  exact .after _ fun _ => .after _ fun _ => .here _

/-- The payload of a member is read as it is. -/
theorem passes_payload {tag : String} {kind : RecordKind} (h : kind.Tagged tag) (budget : Nat) :
    Passes (kind.read budget) fun json =>
      Shape.read .member (budget + 1) (.object [(some tag, json)]) := by
  cases h with
  | field | property | method | other => exact .self

/-- **A place is looked at once.** What is read of the whole is told by what is read at the place,
and there is nothing to read of the whole if there is nothing to read there. -/
theorem passes (h : Place hole room shape budget place) :
    Passes (hole.read room) fun json => shape.read budget (place json) := by
  -- from the record outwards; a value that is not `null` stays one, which optional records ask for
  induction h with
  | here => exact .self
  | inField front back hholds hplace ih =>
      have hnodup := hholds.names_eq ▸ RecordKind.nodup_names _
      exact ((hholds.passes _ (Json.oneOfFields_object hnodup front back)).comp
        (fun _ => hplace.ne_null) ih :)
  | inPosition front back hholds hfront hplace ih =>
      exact ((hholds.passes _ (Json.oneOfFields_array hfront back)).comp
        (fun _ => hplace.ne_null) ih :)
  | inItem front back hplace ih =>
      exact ((passes_item _ _ front back).comp (fun _ => hplace.ne_null) ih :)
  | inMember htag hplace ih =>
      exact ((passes_payload htag _).comp (fun _ => hplace.ne_null) ih :)
  | inTable front back type hplace ih =>
      exact ((passes_facts _ front back type).comp (fun _ => hplace.ne_null) ih :)

end Place

end Manifest
end ClassDiagram
