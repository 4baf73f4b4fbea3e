import ClassDiagram.Proofs.ManifestPlaces
import ClassDiagram.Proofs.WrittenManifests
import Mathlib.Data.Option.Basic

/-!
# Records written in other ways

The same record may be written with its fields in another order, with fields of other names between
them, or as the array of its fields, in which each missing one is spelled out
(`Manifest.RecordKind.Rewritten`). Its reader reads the same
(`Manifest.RecordKind.Rewritten.read_eq`), so that the manifest it stands in is read as before,
however deep it stands. A record that has one of its own fields twice cannot be read, nor can a
manifest with such a record.

An array costs as much of the budget as an object does. But a default that is spelled out may be an
array or object itself, and there has to be room for it. What stands in fields of other names costs
nothing.
-/

namespace ClassDiagram

open Json (list?)

/-! ## Depth -/

theorem Json.depth_lt_object (front back : List (Option String × Json)) (key : Option String)
    (json : Json) : json.depth < (object (front ++ (key, json) :: back)).depth := by
  have hfield : (key, json) ∈ front ++ (key, json) :: back := List.mem_append_cons_self
  exact Nat.lt_succ_of_le (depth_le_depthOfFields hfield)

theorem Json.depth_lt_array (front back : List Json) (json : Json) :
    json.depth < (array (front ++ json :: back)).depth := by
  have hitem : json ∈ front ++ json :: back := List.mem_append_cons_self
  exact Nat.lt_succ_of_le (depth_le_depthOfItems hitem)

/-! ## Defaults -/

/-- What is read of no items. -/
theorem Json.list?_nil {α : Type} {read : Nat → Json → Option α} {budget : Nat}
    (h : (array []).depth < budget + 1) : list? read budget (array []) = some [] := by
  cases budget with
  | zero => exact absurd h (Nat.lt_irrefl _)
  | succ budget => rfl

/-- What is read of a table without entries. -/
theorem SymbolTable.ofJson?_nil {budget : Nat} (h : (Json.object []).depth < budget + 1) :
    ofJson? budget (.object []) = some (.ofList []) := by
  cases budget with
  | zero => exact absurd h (Nat.lt_irrefl _)
  | succ budget => rfl

namespace Manifest

/-- The item is what stands in the field or, if the field is missing, its default, provided that
there is room for it below the record. -/
inductive RecordField.FilledBy (field : RecordField) (room : Nat) : Option Json → Json → Prop where
  | present (item : Json) : FilledBy field room (some item) item
  | missing {item : Json} : field.default = some item → item.depth < room →
      FilledBy field room none item

namespace RecordField.FilledBy

variable {α : Type} {name : String} {room : Nat} {value : Option Json} {item default : Json}

theorem required (h : FilledBy ⟨name, none⟩ room value item) (read : Json → Option α) :
    Json.required read (some item) = Json.required read value := by
  cases h with
  | present => rfl
  | missing hdefault => exact absurd hdefault nofun

/-- A default that is spelled out is read as what it stands for. -/
theorem defaulting (h : FilledBy ⟨name, some default⟩ room value item) {read : Json → Option α}
    {standing : α} (hread : default.depth < room → read default = some standing) :
    Json.defaulting standing read (some item) = Json.defaulting standing read value := by
  cases h with
  | present => rfl
  | missing hdefault hroom =>
      obtain rfl := Option.some.inj hdefault
      exact hread hroom

theorem nullable (h : FilledBy ⟨name, some .null⟩ room value item) (read : Json → Option α) :
    Json.defaulting none (Json.nullable read) (some item)
      = Json.defaulting none (Json.nullable read) value :=
  h.defaulting fun _ => rfl

theorem list {budget : Nat} (h : FilledBy ⟨name, some (.array [])⟩ (budget + 1) value item)
    (read : Nat → Json → Option α) :
    Json.defaulting [] (list? read budget) (some item)
      = Json.defaulting [] (list? read budget) value :=
  h.defaulting Json.list?_nil

end RecordField.FilledBy

/-! ## Records -/

namespace RecordKind

theorem fields_congr {α : Type} {names : List String} {json' json : Json}
    {values' values : List (Option Json)} {ofValues : List (Option Json) → Option α}
    (hvalues' : json'.fields? names = some values') (hvalues : json.fields? names = some values)
    (h : ofValues values' = ofValues values) :
    (json'.fields? names).bind ofValues = (json.fields? names).bind ofValues := by
  rw [hvalues', hvalues, Option.bind_some, Option.bind_some, h]

/-- The values of a record's fields, of which each is filled by an item. -/
def Filled (kind : RecordKind) (room : Nat) (value : String → Option Json)
    (items : List Json) : Prop :=
  List.Forall₂ (fun field item => field.FilledBy room (value field.name) item) kind.fields items

/-- Spelling out the defaults changes nothing. -/
theorem read_eq_of_filled {kind : RecordKind} {room : Nat} {value : String → Option Json}
    {items : List Json} (h : kind.Filled room value items) {json : Json}
    (hvalues : json.fields? kind.names = some (kind.names.map value)) :
    kind.read room (.array items) = kind.read room json := by
  have hitems : Json.fields? kind.names (.array items) = some (items.map some) :=
    Json.fields?_array (by rw [← h.length_eq, names, List.length_map])
  cases room with
  | zero => cases kind <;> rfl
  | succ budget =>
      -- field by field, in the order in which the reader asks for them
      cases kind with
      | manifest =>
          obtain _ | ⟨hprojects, _ | _⟩ := h
          simp only [read, ofJsonWithin?]
          exact fields_congr hitems hvalues <|
            Option.bind_congr' (hprojects.list _) fun _ _ => rfl
      | project =>
          obtain _ | ⟨hname, _ | ⟨hsymbols, _ | ⟨hdocuments, _ | _⟩⟩⟩ := h
          simp only [read, ProjectEntry.ofJson?]
          exact fields_congr hitems hvalues <|
            Option.bind_congr' (hname.required _) fun _ _ =>
            Option.bind_congr' (hsymbols.defaulting SymbolTable.ofJson?_nil) fun _ _ =>
            Option.bind_congr' (hdocuments.list _) fun _ _ => rfl
      | facts =>
          obtain _ | ⟨hbase, _ | ⟨hinterfaces, _ | _⟩⟩ := h
          simp only [read, SymbolFacts.ofJson?]
          exact fields_congr hitems hvalues <|
            Option.bind_congr' (hbase.nullable _) fun _ _ =>
            Option.bind_congr' (hinterfaces.list _) fun _ _ => rfl
      | document =>
          obtain _ | ⟨hname, _ | ⟨hsemantic, _ | ⟨htree, _ | _⟩⟩⟩ := h
          simp only [read, DocumentEntry.ofJson?]
          exact fields_congr hitems hvalues <|
            Option.bind_congr' (hname.required _) fun _ _ =>
            Option.bind_congr' (hsemantic.defaulting fun _ => rfl) fun _ _ =>
            Option.bind_congr' (htree.nullable _) fun _ _ => rfl
      | tree =>
          obtain _ | ⟨hpath, _ | ⟨hroot, _ | _⟩⟩ := h
          simp only [read, SourceTree.ofJson?]
          exact fields_congr hitems hvalues <|
            Option.bind_congr' (hpath.defaulting fun _ => rfl) fun _ _ =>
            Option.bind_congr' (hroot.nullable _) fun _ _ => rfl
      | root =>
          obtain _ | ⟨hdeclarations, _ | _⟩ := h
          simp only [read, SourceTree.rootOfJson?]
          exact fields_congr hitems hvalues (hdeclarations.list _)
      | type =>
          obtain _ | ⟨hkind, _ | ⟨hmodifiers, _ | ⟨hidentifier, h⟩⟩⟩ := h
          obtain _ | ⟨hnamespace, _ | ⟨hbases, _ | ⟨hmembers, _ | ⟨hnested, _ | _⟩⟩⟩⟩ := h
          simp only [read, Declaration.ofJson?_succ, Declaration.ofFields?]
          exact fields_congr hitems hvalues <|
            Option.bind_congr' (hkind.required _) fun _ _ =>
            Option.bind_congr' (hmodifiers.list _) fun _ _ =>
            Option.bind_congr' (hidentifier.required _) fun _ _ =>
            Option.bind_congr' (hnamespace.nullable _) fun _ _ =>
            Option.bind_congr' (hbases.list _) fun _ _ =>
            Option.bind_congr' (hmembers.list _) fun _ _ =>
            Option.bind_congr' (hnested.list _) fun _ _ => rfl
      | field =>
          obtain _ | ⟨hmodifiers, _ | ⟨htype, _ | ⟨hnames, _ | _⟩⟩⟩ := h
          simp only [read, DeclaredMember.fieldOfJson?]
          exact fields_congr hitems hvalues <|
            Option.bind_congr' (hmodifiers.list _) fun _ _ =>
            Option.bind_congr' (htype.required _) fun _ _ =>
            Option.bind_congr' (hnames.required _) fun _ _ => rfl
      | property =>
          obtain _ | ⟨hmodifiers, _ | ⟨hname, _ | ⟨htype, _ | _⟩⟩⟩ := h
          simp only [read, DeclaredMember.propertyOfJson?]
          exact fields_congr hitems hvalues <|
            Option.bind_congr' (hmodifiers.list _) fun _ _ =>
            Option.bind_congr' (hname.required _) fun _ _ =>
            Option.bind_congr' (htype.required _) fun _ _ => rfl
      | method =>
          obtain _ | ⟨hmodifiers, _ | ⟨hname, _ | ⟨hparameters, _ | ⟨hreturnType, _ | _⟩⟩⟩⟩ := h
          simp only [read, DeclaredMember.methodOfJson?]
          exact fields_congr hitems hvalues <|
            Option.bind_congr' (hmodifiers.list _) fun _ _ =>
            Option.bind_congr' (hname.required _) fun _ _ =>
            Option.bind_congr' (hparameters.list _) fun _ _ =>
            Option.bind_congr' (hreturnType.required _) fun _ _ => rfl
      | other =>
          obtain _ | ⟨hkind, _ | _⟩ := h
          simp only [read, DeclaredMember.otherOfJson?]
          exact fields_congr hitems hvalues <|
            Option.bind_congr' (hkind.required _) fun _ _ => rfl
      | parameter =>
          obtain _ | ⟨hname, _ | ⟨htype, _ | _⟩⟩ := h
          simp only [read, Parameter.ofJson?]
          exact fields_congr hitems hvalues <|
            Option.bind_congr' (hname.required _) fun _ _ =>
            Option.bind_congr' (htype.nullable _) fun _ _ => rfl

/-- **The ways to write a record with these fields anew**, in a place with this room. -/
inductive Rewritten (kind : RecordKind) (room : Nat) (fields : List (Option String × Json)) :
    Json → Prop where
  | permuted {fields' : List (Option String × Json)} :
      fields'.Perm fields → Rewritten kind room fields (.object fields')
  /-- With any number of fields of other names, whatever stands in them. A key that denotes no text
  is no name: with one of these an object cannot be read. -/
  | extended {fields' : List (Option String × Json)} :
      Json.Extended kind.names fields fields' → Rewritten kind room fields (.object fields')
  /-- As the array of all its fields. -/
  | listed {items : List Json} : kind.Filled room (fun name => fields.lookup (some name)) items →
      Rewritten kind room fields (.array items)

theorem Rewritten.ne_null {kind : RecordKind} {room : Nat} {fields : List (Option String × Json)}
    {json : Json} (h : kind.Rewritten room fields json) : json ≠ .null := by
  cases h with
  | permuted | extended | listed => exact Json.noConfusion

/-- A record that is written anew is read as before, if it can be read at all. -/
theorem Rewritten.read_eq {kind : RecordKind} {room : Nat} {fields : List (Option String × Json)}
    {json : Json} (h : kind.Rewritten room fields json)
    (hread : kind.read room (.object fields) ≠ none) :
    kind.read room json = kind.read room (.object fields) := by
  cases h with
  | permuted hperm => exact read_congr (Json.fields?_perm hperm _) room
  | extended hextended => exact read_congr (Json.fields?_extended hextended) room
  | listed hfilled =>
      have hfields : (Json.object fields).fields? kind.names ≠ none :=
        fun hnone => hread (read_eq_none hnone room)
      exact read_eq_of_filled hfilled (Json.fields?_object_of_ne hfields)

end RecordKind

/-! ## Manifests -/

/-- What is read of the value, and of every text and all bytes in which this value is written. -/
structure IsReadAs (json : Json) (manifest : Option Manifest) : Prop where
  value : ofJson? json = manifest
  text : ∀ text, Json.ofText? text = some json → ofText? text = manifest
  bytes : ∀ bytes, Json.ofBytes? bytes = some json → ofBytes? bytes = manifest

theorem IsReadAs.of_value {json : Json} {manifest : Option Manifest}
    (h : ofJson? json = manifest) : IsReadAs json manifest where
  value := h
  text text htext := by rw [ofText?, htext, Option.bind_some, h]
  bytes bytes hbytes := by rw [ofBytes?, hbytes, Option.bind_some, h]

namespace Place

variable {hole : RecordKind} {room : Nat} {place : Json → Json}

/-- Every array and object around the place takes one of the budget. -/
theorem depth_add_le {shape : Shape} {budget : Nat} (h : Place hole room shape budget place)
    (json : Json) : json.depth + budget ≤ (place json).depth + room := by
  have hstep : ∀ {budget inner outer : Nat}, json.depth + budget ≤ inner + room → inner < outer →
      json.depth + (budget + 1) ≤ outer + room := by omega
  induction h with
  | here => exact Nat.le_refl _
  | inField front back _ _ ih => exact hstep ih (Json.depth_lt_object front back _ _)
  | inPosition front back _ _ _ ih => exact hstep ih (Json.depth_lt_array front back _)
  | inItem front back _ ih => exact hstep ih (Json.depth_lt_array front back _)
  | inMember _ _ ih => exact hstep ih (Json.depth_lt_object [] [] _ _)
  | inTable front back _ _ ih => exact hstep ih (Json.depth_lt_object front back _ _)

/-- There is room for all items of a record if no more arrays and objects are open at once than may
be. -/
theorem depth_lt_of_mem (hplace : Place hole room (.record .manifest) maxDepth place)
    {items : List Json} (h : (place (.array items)).depth ≤ maxDepth) {item : Json}
    (hitem : item ∈ items) : item.depth < room := by
  have hdepth := hplace.depth_add_le (.array items)
  have hitem := Json.depth_le_depthOfItems hitem
  rw [Json.depth] at hdepth
  omega

theorem ofJson?_congr (hplace : Place hole room (.record .manifest) maxDepth place)
    {json' json : Json} (hjson' : json' ≠ .null) (hjson : json ≠ .null)
    (h : hole.read room json' = hole.read room json) :
    ofJson? (place json') = ofJson? (place json) := by
  obtain ⟨finish, hpasses⟩ := hplace.passes
  exact (hpasses json' hjson').trans ((congrArg (Option.bind · finish) h).trans
    (hpasses json hjson).symm)

theorem ofJson?_eq_none (hplace : Place hole room (.record .manifest) maxDepth place)
    {json : Json} (hjson : json ≠ .null) (h : hole.read room json = none) :
    ofJson? (place json) = none := by
  obtain ⟨finish, hpasses⟩ := hplace.passes
  exact (hpasses json hjson).trans (congrArg (Option.bind · finish) h)

/-- **However deep a record stands in a manifest, it may be written anew, and none of its fields may
be repeated.** The first leaves what is read of the manifest as it was, and the second leaves nothing
to read. There is room for what is spelled out in an array as long as the manifest opens no more
arrays and objects at once than may be (`depth_lt_of_mem`). -/
theorem isReadAs_rewritten {fields : List (Option String × Json)} {manifest : Manifest}
    (hplace : Place hole room (.record .manifest) maxDepth place)
    (hread : ofJson? (place (.object fields)) = some manifest) :
    (∀ json, hole.Rewritten room fields json → IsReadAs (place json) (some manifest))
      ∧ ∀ fields' name, name ∈ hole.names → List.Duplicate (some name) (fields'.map Prod.fst) →
        IsReadAs (place (.object fields')) none := by
  have hobject : Json.object fields ≠ .null := nofun
  constructor
  · intro json hrewritten
    have hthere : hole.read room (.object fields) ≠ none := fun hnone =>
      Option.some_ne_none manifest (hread ▸ hplace.ofJson?_eq_none hobject hnone)
    exact .of_value ((hplace.ofJson?_congr hrewritten.ne_null hobject
      (hrewritten.read_eq hthere)).trans hread)
  · intro fields' name hname hduplicate
    have hobject' : Json.object fields' ≠ .null := nofun
    have hnone : (Json.object fields').fields? hole.names = none :=
      Json.fields?_of_duplicate hname hduplicate
    exact .of_value (hplace.ofJson?_eq_none hobject' (hole.read_eq_none hnone room))

end Place

/-- A manifest with the record of a parameter deep in it: the method is that of a type nested in
another one. The project is written as an array. -/
def songWith (parameter : Json) : Json :=
  .object [(some "projects", .array [.array [.ofString "Aviary", .object [], .array [
    .object [(some "name", .ofString "Birds.cs"), (some "tree", .object [(some "root",
      .object [(some "declarations", .array [.object [
        (some "kind", .ofString "class"),
        (some "identifier", .ofString "Bird"),
        (some "nested", .array [.object [
          (some "kind", .ofString "interface"),
          (some "identifier", .ofString "ISing"),
          (some "members", .array [.object [(some "method", .object [
            (some "identifier", .ofString "Sing"),
            (some "return_type", .ofString "void"),
            (some "parameters", .array [parameter])])]])]])]])])])]]]])]

/-- What is read of it if the parameter is a song. -/
def song : Manifest where
  projects := [{
    name := "Aviary"
    symbols := .ofList []
    documents := [{
      name := "Birds.cs"
      tree := some { root := some [{
        keyword := .forClass
        identifier := "Bird"
        nested := [{
          keyword := .forInterface
          identifier := "ISing"
          members := [.method [] "Sing" [⟨"song", none⟩] "void"] }] }] } }] }]

theorem Place.isReadAs_rewritten_song :
    Place .parameter 112 (.record .manifest) maxDepth songWith
      ∧ ofJson? (songWith (.object [(some "identifier", .ofString "song")])) = some song
      ∧ IsReadAs (songWith (.array [.ofString "song", .null])) (some song)
      ∧ IsReadAs (songWith (.object [(some "pitch", .array [.object []]),
          (some "identifier", .ofString "song"), (some "pitch", .number "440")])) (some song)
      ∧ IsReadAs (songWith (.object [(some "identifier", .ofString "song"),
          (some "identifier", .ofString "song")])) none := by
  have hplace : Place .parameter 112 (.record .manifest) maxDepth songWith :=
    .inField [] [] .projects <| .inItem [] [] <|
    .inPosition [.ofString "Aviary", .object []] [] .documents rfl <| .inItem [] [] <|
    .inField [(some "name", .ofString "Birds.cs")] [] .tree <| .inField [] [] .root <|
    .inField [] [] .declarations <| .inItem [] [] <|
    .inField [(some "kind", .ofString "class"), (some "identifier", .ofString "Bird")] [] .nested <|
    .inItem [] [] <|
    .inField [(some "kind", .ofString "interface"), (some "identifier", .ofString "ISing")] []
      .members <| .inItem [] [] <| .inMember .method <|
    .inField [(some "identifier", .ofString "Sing"), (some "return_type", .ofString "void")] []
      .parameters <| .inItem [] [] .here
  have hread : ofJson? (songWith (.object [(some "identifier", .ofString "song")])) = some song :=
    rfl
  obtain ⟨hsame, hnone⟩ := Place.isReadAs_rewritten hplace hread
  refine ⟨hplace, hread, hsame _ (.listed ?_), hsame _ (.extended ?_),
    hnone _ "identifier" List.mem_cons_self ?_⟩
  · exact .cons (.present _) (.cons (.missing rfl (by decide)) .nil)
  · exact .insert _ (by decide) (.keep _ (.insert _ (by decide) .nil))
  · exact List.Mem.duplicate_cons_self List.mem_cons_self

end Manifest
end ClassDiagram
