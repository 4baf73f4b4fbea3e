import ClassDiagram.Manifest.Reader
import ClassDiagram.Manifest.Writer
import ClassDiagram.Proofs.TextBytes
import ClassDiagram.Proofs.WrittenJson
import Mathlib.Data.List.Nodup

/-!
# Manifests written and read

A manifest is read from its own text as the manifest it was (`Manifest.ofText?_text`), provided
that the text does not open more arrays and objects at once than the reader allows.

For each record there is one lemma, that its reader is exact (`Json.Reads`): within any budget
that is as great as the depth of what is written, it reads the value that was written. Lists,
tables and records that hold others have their lemma from the ones of what they hold.
-/

namespace ClassDiagram.Json

/-! ## Depth and budget -/

theorem depth_le_depthOfItems {items : List Json} {item : Json} (h : item ∈ items) :
    item.depth ≤ depthOfItems items := by
  induction items with
  | nil => exact absurd h List.not_mem_nil
  | cons head rest ih =>
      rw [depthOfItems]
      rcases List.mem_cons.1 h with rfl | h
      · exact Nat.le_max_left _ _
      · exact Nat.le_trans (ih h) (Nat.le_max_right _ _)

theorem depth_le_depthOfFields {fields : List (Option String × Json)}
    {field : Option String × Json} (h : field ∈ fields) :
    field.2.depth ≤ depthOfFields fields := by
  induction fields with
  | nil => exact absurd h List.not_mem_nil
  | cons head rest ih =>
      rw [depthOfFields]
      rcases List.mem_cons.1 h with rfl | h
      · exact Nat.le_max_left _ _
      · exact Nat.le_trans (ih h) (Nat.le_max_right _ _)

/-- A budget that is enough for an array is one more than what is enough for its items. -/
theorem exists_budget_of_array {items : List Json} {budget : Nat}
    (h : (array items).depth ≤ budget) :
    ∃ inner, budget = inner + 1 ∧ depthOfItems items ≤ inner := by
  rw [depth] at h
  exact ⟨budget - 1, by omega, by omega⟩

/-- A budget that is enough for an object is one more than what is enough for its fields. -/
theorem exists_budget_of_ofFields {fields : List (String × Json)} {budget : Nat}
    (h : (ofFields fields).depth ≤ budget) :
    ∃ inner, budget = inner + 1 ∧ ∀ field ∈ fields, field.2.depth ≤ inner := by
  rw [ofFields, depth] at h
  refine ⟨budget - 1, by omega, fun field hfield => ?_⟩
  have hmem := List.mem_map_of_mem (f := fun field => (some field.1, field.2)) hfield
  have hdepth := depth_le_depthOfFields hmem
  dsimp only at hdepth
  omega

/-- For an object in the only field of another one the budget is greater by two. -/
theorem exists_budget_of_tagged {tag : String} {fields : List (String × Json)} {budget : Nat}
    (h : (ofFields [(tag, ofFields fields)]).depth ≤ budget) :
    ∃ inner, budget = inner + 2 ∧ ∀ field ∈ fields, field.2.depth ≤ inner := by
  obtain ⟨outer, rfl, hpayload⟩ := exists_budget_of_ofFields h
  obtain ⟨inner, rfl, hfields⟩ := exists_budget_of_ofFields (hpayload _ List.mem_cons_self)
  exact ⟨inner, rfl, hfields⟩

/-! ## Exact readers -/

section

variable {α : Type}

/-- Within any budget that is enough, the reader reads the value that was written. -/
def Reads (read : Nat → Json → Option α) (write : α → Json) : Prop :=
  ∀ value budget, (write value).depth ≤ budget → read budget (write value) = some value

theorem mapM_map {β : Type} {read : β → Option α} {write : α → β} {values : List α}
    (h : ∀ value ∈ values, read (write value) = some value) :
    (values.map write).mapM read = some values := by
  induction values with
  | nil => rfl
  | cons value rest ih =>
      obtain ⟨hvalue, hrest⟩ := List.forall_mem_cons.1 h
      rw [List.map_cons, List.mapM_cons, hvalue, ih hrest]
      rfl

theorem Reads.list {read : Nat → Json → Option α} {write : α → Json} (h : Reads read write) :
    Reads (list? read) (fun values => array (values.map write)) := by
  intro values budget hdepth
  obtain ⟨inner, rfl, hitems⟩ := exists_budget_of_array hdepth
  rw [list?, items?]
  refine mapM_map fun value hvalue => h value inner ?_
  have hitem := depth_le_depthOfItems (List.mem_map_of_mem (f := write) hvalue)
  omega

theorem reads_texts : Reads texts? ofStrings := by
  have htext : Reads (fun _ => text?) ofString := fun _ _ _ => rfl
  exact htext.list

/-- A text that is left out where there is none. -/
theorem defaulting_map_ofString (value : Option String) :
    defaulting none (nullable text?) (value.map ofString) = some value := by
  cases value with
  | none => rfl
  | some value => rfl

theorem nullable_ofString? (value : Option String) :
    nullable text? (ofString? value) = some value := by
  cases value with
  | none => rfl
  | some value => rfl

end

/-! ## Fields -/

theorem lookup_map_some (fields : List (String × Json)) (name : String) :
    (fields.map fun field => (some field.1, field.2)).lookup (some name)
      = fields.lookup name := by
  induction fields with
  | nil => rfl
  | cons field rest ih =>
      obtain ⟨key, value⟩ := field
      have hkey : (some name == some key) = (name == key) := rfl
      rw [List.map_cons, List.lookup_cons, List.lookup_cons, hkey, ih]

/-- Where no name repeats, the fields of an object are read as what they are, whatever names
are asked for. -/
theorem fields?_ofFields {fields : List (String × Json)} (h : (fields.map Prod.fst).Nodup)
    (names : List String) :
    (ofFields fields).fields? names = some (names.map fun name => fields.lookup name) := by
  have hkeys : (fields.map fun field => (some field.1, field.2)).all
      (fun field => field.1.isSome) = true := by
    rw [List.all_map]
    exact List.all_eq_true.2 fun _ _ => rfl
  have honce : names.all (occursOnce (fields.map fun field => (some field.1, field.2))) = true := by
    refine List.all_eq_true.2 fun name _ => decide_eq_true ?_
    have hcount := List.nodup_iff_count_le_one.1 h name
    rw [List.count_eq_countP, List.countP_map] at hcount
    rw [List.countP_map]
    exact hcount
  rw [ofFields, fields?, hkeys, honce]
  simp only [Bool.and_self, if_true, lookup_map_some]

/-! ## Well-formed values -/

@[simp] theorem wellFormed_null : WellFormed null := trivial

@[simp] theorem wellFormed_bool (value : Bool) : (bool value).WellFormed := trivial

@[simp] theorem wellFormed_ofString (value : String) : (ofString value).WellFormed := trivial

@[simp] theorem wellFormed_ofString? (value : Option String) : (ofString? value).WellFormed := by
  cases value with
  | none => trivial
  | some value => trivial

@[simp] theorem wellFormed_array (items : List Json) :
    (array items).WellFormed ↔ ∀ item ∈ items, item.WellFormed := by
  rw [WellFormed]
  induction items with
  | nil => simp [AllWellFormed]
  | cons item rest ih => rw [AllWellFormed, ih, List.forall_mem_cons]

@[simp] theorem wellFormed_ofFields (fields : List (String × Json)) :
    (ofFields fields).WellFormed ↔ ∀ field ∈ fields, field.2.WellFormed := by
  rw [ofFields, WellFormed]
  induction fields with
  | nil => simp [FieldsWellFormed]
  | cons field rest ih => rw [List.map_cons, FieldsWellFormed, ih, List.forall_mem_cons]

@[simp] theorem wellFormed_ofStrings (values : List String) : (ofStrings values).WellFormed := by
  simp [ofStrings]

end ClassDiagram.Json

namespace ClassDiagram

open Json

/-! ## Members -/

/-- A parameter without a type has one field less, which its reader takes for the default. -/
theorem Parameter.reads : Reads Parameter.ofJson? Parameter.toJson := by
  intro parameter budget hdepth
  obtain ⟨name, type⟩ := parameter
  obtain ⟨inner, rfl, -⟩ := exists_budget_of_ofFields hdepth
  have hvalues : (Parameter.mk name type).toJson.fields? ["identifier", "type"]
      = some [some (ofString name), type.map ofString] := by
    cases type with
    | none => exact fields?_ofFields (by simp) _
    | some type => exact fields?_ofFields (by simp) _
  rw [Parameter.ofJson?, hvalues]
  show (do some (Parameter.mk (← some name)
    (← defaulting none (nullable text?) (type.map ofString)))) = _
  rw [defaulting_map_ofString]
  rfl

/-- The tag of a member costs one of the budget, the member itself another one. -/
theorem DeclaredMember.reads : Reads DeclaredMember.ofJson? DeclaredMember.toJson := by
  intro member budget hdepth
  cases member with
  | field modifiers type names =>
      obtain ⟨inner, rfl, hfields⟩ := exists_budget_of_tagged hdepth
      have hmodifiers := reads_texts modifiers inner (hfields _ List.mem_cons_self)
      have hnames := reads_texts names inner (hfields ("variables", ofStrings names) (by simp))
      rw [toJson]
      show fieldOfJson? (inner + 1) _ = _
      rw [fieldOfJson?, fields?_ofFields (by simp)]
      show (do some (field (← texts? inner (ofStrings modifiers)) (← some type)
        (← texts? inner (ofStrings names)))) = _
      rw [hmodifiers, hnames]
      rfl
  | property modifiers name type =>
      obtain ⟨inner, rfl, hfields⟩ := exists_budget_of_tagged hdepth
      have hmodifiers := reads_texts modifiers inner (hfields _ List.mem_cons_self)
      rw [toJson]
      show propertyOfJson? (inner + 1) _ = _
      rw [propertyOfJson?, fields?_ofFields (by simp)]
      show (do some (property (← texts? inner (ofStrings modifiers)) (← some name)
        (← some type))) = _
      rw [hmodifiers]
      rfl
  | method modifiers name parameters returnType =>
      obtain ⟨inner, rfl, hfields⟩ := exists_budget_of_tagged hdepth
      have hmodifiers := reads_texts modifiers inner (hfields _ List.mem_cons_self)
      have hparameters := Parameter.reads.list parameters inner
        (hfields ("parameters", _) (by simp))
      rw [toJson]
      show methodOfJson? (inner + 1) _ = _
      rw [methodOfJson?, fields?_ofFields (by simp)]
      show (do some (method (← texts? inner (ofStrings modifiers)) (← some name)
        (← list? Parameter.ofJson? inner (.array (parameters.map Parameter.toJson)))
        (← some returnType))) = _
      rw [hmodifiers, hparameters]
      rfl
  | other kind =>
      obtain ⟨inner, rfl, -⟩ := exists_budget_of_tagged hdepth
      rw [toJson]
      show otherOfJson? (inner + 1) _ = _
      rw [otherOfJson?, fields?_ofFields (by simp)]
      rfl

/-! ## Types -/

theorem DeclarationKeyword.reads :
    Reads DeclarationKeyword.ofJson? (fun keyword => ofString keyword.name) := by
  intro keyword budget _
  cases keyword with
  | forClass => rfl
  | forInterface => rfl
  | forStruct => rfl
  | forRecord => rfl

namespace Declaration

mutual

/-- **A type is read as it was written**, with all the types nested in it. -/
theorem ofJson?_toJson : ∀ (declaration : Declaration) (budget : Nat),
    declaration.toJson.depth ≤ budget → ofJson? budget declaration.toJson = some declaration
  | ⟨keyword, modifiers, identifier, ownNamespace, bases, members, nested⟩, budget, hdepth => by
      rw [toJson] at hdepth
      obtain ⟨inner, rfl, hfields⟩ := exists_budget_of_ofFields hdepth
      have hkeyword := DeclarationKeyword.reads keyword inner (Nat.zero_le _)
      have hmodifiers := reads_texts modifiers inner
        (hfields ("modifiers", ofStrings modifiers) (by simp))
      have hbases := reads_texts bases inner (hfields ("base_list", ofStrings bases) (by simp))
      have hmembers := DeclaredMember.reads.list members inner
        (hfields ("members", .array (members.map DeclaredMember.toJson)) (by simp))
      -- what is left for a nested type is less by two: one for this type, one for the array
      obtain ⟨innermost, rfl, hitems⟩ :=
        exists_budget_of_array (hfields ("nested", .array (toJsonItems nested)) (by simp))
      have hnested := mapM_toJsonItems nested innermost hitems
      have hvalues : (toJson ⟨keyword, modifiers, identifier, ownNamespace, bases, members,
          nested⟩).fields? ["kind", "modifiers", "identifier", "namespace", "base_list", "members",
            "nested"]
          = some [some (ofString keyword.name), some (ofStrings modifiers),
              some (ofString identifier), ownNamespace.map ofString, some (ofStrings bases),
              some (.array (members.map DeclaredMember.toJson)),
              some (.array (toJsonItems nested))] := by
        rw [toJson]
        cases ownNamespace with
        | none => exact fields?_ofFields (by simp) _
        | some space => exact fields?_ofFields (by simp) _
      rw [ofJson?, Declaration.ofFields?, hvalues]
      show (do some (Declaration.mk
        (← DeclarationKeyword.ofJson? (innermost + 1) (ofString keyword.name))
        (← texts? (innermost + 1) (ofStrings modifiers))
        (← some identifier)
        (← defaulting none (nullable text?) (ownNamespace.map ofString))
        (← texts? (innermost + 1) (ofStrings bases))
        (← list? DeclaredMember.ofJson? (innermost + 1)
          (.array (members.map DeclaredMember.toJson)))
        (← (toJsonItems nested).mapM (ofJson? innermost)))) = _
      rw [hkeyword, hmodifiers, defaulting_map_ofString, hbases, hmembers, hnested]
      rfl

theorem mapM_toJsonItems : ∀ (declarations : List Declaration) (budget : Nat),
    depthOfItems (toJsonItems declarations) ≤ budget →
      (toJsonItems declarations).mapM (ofJson? budget) = some declarations
  | [], _, _ => rfl
  | declaration :: rest, budget, hdepth => by
      rw [toJsonItems, depthOfItems, Nat.max_le] at hdepth
      rw [toJsonItems, List.mapM_cons, ofJson?_toJson declaration budget hdepth.1,
        mapM_toJsonItems rest budget hdepth.2]
      rfl

end

end Declaration

/-- The types of a source file, within the budget that is left for them. -/
theorem Declaration.list?_toJsonItems (declarations : List Declaration) (budget : Nat)
    (h : (Json.array (toJsonItems declarations)).depth ≤ budget) :
    list? ofJson? budget (.array (toJsonItems declarations)) = some declarations := by
  obtain ⟨inner, rfl, hitems⟩ := exists_budget_of_array h
  exact mapM_toJsonItems declarations inner hitems

theorem SourceTree.rootOfJson?_ofFields (declarations : List Declaration) (budget : Nat)
    (h : (ofFields [("declarations", .array (Declaration.toJsonItems declarations))]).depth
      ≤ budget) :
    rootOfJson? budget (ofFields [("declarations", .array (Declaration.toJsonItems declarations))])
      = some declarations := by
  obtain ⟨inner, rfl, hroot⟩ := exists_budget_of_ofFields h
  rw [rootOfJson?, fields?_ofFields (by simp)]
  exact Declaration.list?_toJsonItems declarations inner (hroot _ List.mem_cons_self)

theorem SourceTree.reads : Reads SourceTree.ofJson? SourceTree.toJson := by
  intro tree budget hdepth
  obtain ⟨path, root⟩ := tree
  obtain ⟨inner, rfl, hfields⟩ := exists_budget_of_ofFields hdepth
  rw [SourceTree.ofJson?, SourceTree.toJson, fields?_ofFields (by simp)]
  cases root with
  | none => rfl
  | some declarations =>
      let written := ofFields [("declarations", .array (Declaration.toJsonItems declarations))]
      have hroot := rootOfJson?_ofFields declarations inner
        (hfields ("root", written) (by simp [written]))
      show (do some (SourceTree.mk (← some path)
        (← (rootOfJson? inner written).map some))) = _
      rw [hroot]
      rfl

/-! ## Given facts -/

theorem SymbolFacts.reads : Reads SymbolFacts.ofJson? SymbolFacts.toJson := by
  intro facts budget hdepth
  obtain ⟨base, interfaces⟩ := facts
  obtain ⟨inner, rfl, hfields⟩ := exists_budget_of_ofFields hdepth
  have hinterfaces := reads_texts interfaces inner
    (hfields ("interfaces", ofStrings interfaces) (by simp))
  rw [SymbolFacts.ofJson?, SymbolFacts.toJson, fields?_ofFields (by simp)]
  show (do some (SymbolFacts.mk (← nullable text? (ofString? base))
    (← texts? inner (ofStrings interfaces)))) = _
  rw [nullable_ofString?, hinterfaces]
  rfl

namespace SymbolTable

theorem eq_of_entries {first second : SymbolTable} (h : first.entries = second.entries) :
    first = second := by
  cases first
  cases second
  cases h
  rfl

/-- Facts about a type behind all that are known stand at the end. -/
theorem insertEntry_behind {entries : List (String × SymbolFacts)} {type : String}
    (facts : SymbolFacts) (h : ∀ entry ∈ entries, compare entry.1 type = .lt) :
    insertEntry type facts entries = entries ++ [(type, facts)] := by
  induction entries with
  | nil => rfl
  | cons entry rest ih =>
      obtain ⟨hentry, hrest⟩ := List.forall_mem_cons.1 h
      have hgt : compare type entry.1 = .gt := Std.OrientedCmp.gt_of_lt hentry
      rw [insertEntry, hgt]
      dsimp only
      rw [ih hrest, List.cons_append]

/-- Entering facts in their order puts each at the end. -/
theorem entries_foldl_insert (facts : List (String × SymbolFacts)) (table : SymbolTable)
    (h : (table.entries ++ facts).Pairwise (fun a b => compare a.1 b.1 = .lt)) :
    (facts.foldl (fun table entry => table.insert entry.1 entry.2) table).entries
      = table.entries ++ facts := by
  induction facts generalizing table with
  | nil => rw [List.foldl_nil, List.append_nil]
  | cons entry rest ih =>
      have hbehind : ∀ known ∈ table.entries, compare known.1 entry.1 = .lt := fun known hknown =>
        (List.pairwise_append.1 h).2.2 known hknown entry List.mem_cons_self
      have hinsert : (table.insert entry.1 entry.2).entries = table.entries ++ [entry] :=
        insertEntry_behind entry.2 hbehind
      rw [List.foldl_cons, ih _ (by rwa [hinsert, List.append_assoc]), hinsert, List.append_assoc]
      rfl

/-- **A table is the table of its own entries.** -/
theorem ofList_entries (table : SymbolTable) : ofList table.entries = table :=
  eq_of_entries (entries_foldl_insert table.entries {} table.ascending)

theorem reads : Reads SymbolTable.ofJson? SymbolTable.toJson := by
  intro table budget hdepth
  obtain ⟨inner, rfl, hfields⟩ := exists_budget_of_ofFields hdepth
  rw [SymbolTable.toJson, ofFields, List.map_map, SymbolTable.ofJson?]
  -- each entry is read for itself; that the names ascend is needed only to put them together
  show Option.bind ((table.entries.map fun entry => (some entry.1, entry.2.toJson)).mapM _) _ = _
  rw [mapM_map, Option.bind_some, ofList_entries]
  intro entry hentry
  have hfacts := SymbolFacts.reads entry.2 inner
    (hfields _ (List.mem_map_of_mem (f := fun entry => (entry.1, entry.2.toJson)) hentry))
  show (do some (← some entry.1, ← SymbolFacts.ofJson? inner entry.2.toJson)) = _
  rw [hfacts]
  rfl

end SymbolTable

/-! ## Documents, projects and manifests -/

namespace Manifest

theorem DocumentEntry.reads : Reads DocumentEntry.ofJson? DocumentEntry.toJson := by
  intro document budget hdepth
  obtain ⟨name, semantic, tree⟩ := document
  obtain ⟨inner, rfl, hfields⟩ := exists_budget_of_ofFields hdepth
  rw [DocumentEntry.ofJson?, DocumentEntry.toJson, fields?_ofFields (by simp)]
  cases tree with
  | none => rfl
  | some tree =>
      have htree := SourceTree.reads tree inner (hfields ("tree", tree.toJson) (by simp))
      show (do some (DocumentEntry.mk (← some name) (← some semantic)
        (← (SourceTree.ofJson? inner tree.toJson).map some))) = _
      rw [htree]
      rfl

theorem ProjectEntry.reads : Reads ProjectEntry.ofJson? ProjectEntry.toJson := by
  intro project budget hdepth
  obtain ⟨name, symbols, documents⟩ := project
  obtain ⟨inner, rfl, hfields⟩ := exists_budget_of_ofFields hdepth
  have hdocuments := DocumentEntry.reads.list documents inner
    (hfields ("documents", .array (documents.map DocumentEntry.toJson)) (by simp))
  cases hempty : symbols.entries with
  | nil =>
      -- the field is left out, and the default is the empty table again
      obtain rfl : symbols = {} := SymbolTable.eq_of_entries hempty
      rw [ProjectEntry.ofJson?, ProjectEntry.toJson, fields?_ofFields (by simp)]
      show (do some (ProjectEntry.mk (← some name) (← some (SymbolTable.ofList []))
        (← list? DocumentEntry.ofJson? inner (.array (documents.map DocumentEntry.toJson))))) = _
      rw [hdocuments]
      rfl
  | cons entry rest =>
      have hne : symbols.entries.isEmpty = false := by rw [hempty]; rfl
      have hsymbols := SymbolTable.reads symbols inner
        (hfields ("symbols", symbols.toJson) (by simp [hne]))
      rw [ProjectEntry.ofJson?, ProjectEntry.toJson, hne, fields?_ofFields (by simp)]
      show (do some (ProjectEntry.mk (← some name) (← SymbolTable.ofJson? inner symbols.toJson)
        (← list? DocumentEntry.ofJson? inner (.array (documents.map DocumentEntry.toJson))))) = _
      rw [hsymbols, hdocuments]
      rfl

theorem reads : Reads ofJsonWithin? toJson := by
  intro manifest budget hdepth
  obtain ⟨projects⟩ := manifest
  obtain ⟨inner, rfl, hfields⟩ := exists_budget_of_ofFields hdepth
  have hprojects := ProjectEntry.reads.list projects inner
    (hfields ("projects", .array (projects.map ProjectEntry.toJson)) (by simp))
  rw [ofJsonWithin?, toJson, fields?_ofFields (by simp)]
  show (do some (Manifest.mk
    (← list? ProjectEntry.ofJson? inner (.array (projects.map ProjectEntry.toJson))))) = _
  rw [hprojects]
  rfl

end Manifest

/-! ## Texts and bytes

No record holds a number, so that whatever is written of them is well-formed. -/

@[simp] theorem Parameter.wellFormed_toJson (parameter : Parameter) :
    parameter.toJson.WellFormed := by
  obtain ⟨name, type⟩ := parameter
  cases type <;> simp [Parameter.toJson]

@[simp] theorem DeclaredMember.wellFormed_toJson (member : DeclaredMember) :
    member.toJson.WellFormed := by
  cases member <;> simp [DeclaredMember.toJson]

namespace Declaration

mutual

theorem wellFormed_toJson : ∀ declaration : Declaration, declaration.toJson.WellFormed
  | ⟨keyword, modifiers, identifier, ownNamespace, bases, members, nested⟩ => by
      have hnested := wellFormed_of_mem_toJsonItems nested
      cases ownNamespace <;> simp [toJson] <;> exact hnested

theorem wellFormed_of_mem_toJsonItems : ∀ declarations : List Declaration,
    ∀ item ∈ toJsonItems declarations, item.WellFormed
  | [], _, h => absurd h List.not_mem_nil
  | declaration :: rest, item, h => by
      rw [toJsonItems] at h
      rcases List.mem_cons.1 h with rfl | h
      · exact wellFormed_toJson declaration
      · exact wellFormed_of_mem_toJsonItems rest item h

end

end Declaration

@[simp] theorem SourceTree.wellFormed_toJson (tree : SourceTree) : tree.toJson.WellFormed := by
  obtain ⟨path, root⟩ := tree
  cases root with
  | none => simp [SourceTree.toJson]
  | some declarations =>
      simpa [SourceTree.toJson] using Declaration.wellFormed_of_mem_toJsonItems declarations

@[simp] theorem SymbolFacts.wellFormed_toJson (facts : SymbolFacts) : facts.toJson.WellFormed := by
  simp [SymbolFacts.toJson]

@[simp] theorem SymbolTable.wellFormed_toJson (table : SymbolTable) : table.toJson.WellFormed := by
  rw [SymbolTable.toJson, wellFormed_ofFields]
  intro field hfield
  obtain ⟨entry, -, rfl⟩ := List.mem_map.1 hfield
  exact entry.2.wellFormed_toJson

namespace Manifest

@[simp] theorem DocumentEntry.wellFormed_toJson (document : DocumentEntry) :
    document.toJson.WellFormed := by
  obtain ⟨name, semantic, tree⟩ := document
  cases tree <;> simp [DocumentEntry.toJson]

@[simp] theorem ProjectEntry.wellFormed_toJson (project : ProjectEntry) :
    project.toJson.WellFormed := by
  rw [ProjectEntry.toJson]
  split <;> simp

theorem wellFormed_toJson (manifest : Manifest) : manifest.toJson.WellFormed := by
  simp [toJson]

/-- **What is written of a manifest is read as this manifest**, from the text and from its bytes,
if no more arrays and objects are open in it at once than may be. -/
theorem ofText?_text {manifest : Manifest} (h : manifest.toJson.depth ≤ maxDepth) :
    ofText? manifest.text = some manifest
      ∧ ofBytes? (Text.bytesOfText manifest.text) = some manifest := by
  have hread : ofJson? manifest.toJson = some manifest := reads manifest maxDepth h
  have hwell := manifest.wellFormed_toJson
  have htext : Json.ofText? manifest.text = some manifest.toJson := ofText?_compact hwell
  have hbytes : Json.ofBytes? (Text.bytesOfText manifest.text) = some manifest.toJson := by
    rw [Json.ofBytes?, Text.charsOfBytes_bytesOfText]
    exact htext
  constructor
  · rw [ofText?, htext, Option.bind_some, hread]
  · rw [ofBytes?, hbytes, Option.bind_some, hread]

/-- Two birds, one in the other, with members of every kind and names that need escapes. -/
def aviary : Manifest where
  projects := [
    { name := "Aviary \"North\""
      symbols := .ofList [("Birds.Parrot", { base := none, interfaces := ["ISpeak<string>"] })]
      documents := [
        { name := "Parrot.cs"
          tree := some {
            path := "src\\Parrot.cs"
            root := some [
              { keyword := .forClass
                modifiers := ["public"]
                identifier := "Parrot"
                ownNamespace := some "Birds"
                bases := ["Bird", "ISpeak<string>"]
                members := [
                  .field ["private"] "int" ["age", "weight"],
                  .property [] "Größe" "string",
                  .method ["public"] "Say" [⟨"what", some "string"⟩, ⟨"twice\n", none⟩] "void",
                  .other "constructor"]
                nested := [{ keyword := .forRecord, identifier := "Feather\x01" }] }] } },
        { name := "Notes.cs", semantic := false, tree := some {} }] },
    { name := "", symbols := .ofList [] }]

theorem ofText?_text_aviary : aviary.toJson.depth ≤ maxDepth
    ∧ ofText? aviary.text = some aviary
    ∧ ofBytes? (Text.bytesOfText aviary.text) = some aviary := by
  have hdepth : aviary.toJson.depth ≤ maxDepth := by decide
  exact ⟨hdepth, ofText?_text hdepth⟩

end Manifest

end ClassDiagram
