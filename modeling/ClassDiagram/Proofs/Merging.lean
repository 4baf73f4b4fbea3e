import ClassDiagram.Index
import ClassDiagram.Proofs.DistinctNames
import Mathlib.Data.List.Basic

/-!
# What the documents of an assembly add up to

An assembly takes its declarations in one after the other and changes its types as it goes.
This file says what comes out of it by name: `describe?` reads a type off the list of all
declarations, and `types_foldl_add` says that the draft holds the types described in this way, each
once, in the order in which their names come first.

The connections are the delicate part. They are computed when a declaration is taken in,
against a registry that still grows. They stay right because what grows it later is about
other names: an entry changes nothing for any other name, and the type of its own name is
connected again in the same step.
-/

namespace ClassDiagram

/-! ## The registry -/

namespace SymbolRegistry

theorem model?_add_of_ne {registry : SymbolRegistry} {assembly type : String}
    {model : SymbolModel} {assembly' type' : String}
    (h : ¬ (assembly = assembly' ∧ type = type')) :
    (registry.add assembly type model).model? assembly' type'
      = registry.model? assembly' type' := by
  rw [add]
  split
  · rfl
  · have hne : Registration.isFor ⟨assembly, type, model⟩ assembly' type' = false := by
      simpa [Registration.isFor] using h
    rw [model?, List.find?_append, List.find?_singleton, hne, if_neg (by simp), Option.or_none]
    rfl

/-- Types with the same model have the same symbol. -/
theorem symbol?_congr {registry registry' : SymbolRegistry} {assembly type : String}
    (h : registry.model? assembly type = registry'.model? assembly type) :
    registry.symbol? assembly type = registry'.symbol? assembly type := by
  rw [symbol?, symbol?, h]

end SymbolRegistry

/-- The connections of a type depend on the registry only through the type's own symbol. -/
theorem Connections.ofType_congr {style : DiagramStyle} {registry registry' : SymbolRegistry}
    {assembly : String} {type : IndexedType}
    (h : registry.symbol? assembly type.qualifiedName
      = registry'.symbol? assembly type.qualifiedName) :
    ofType style registry assembly type = ofType style registry' assembly type := by
  rw [ofType, ofType, h]

/-! ## Documents as lists of declarations -/

/-- A declaration that a document adds to its assembly, with the document's model. -/
structure Contribution where
  model : SymbolModel
  occurrence : Occurrence

namespace Document

/-- Whether the document has a model, a tree and a root. -/
def isComplete (document : Document) : Bool :=
  document.model.isSome && (document.tree.bind (·.root)).isSome

/-- What the document adds to its assembly, which is nothing if something is missing. -/
def contributions (document : Document) : List Contribution :=
  match document.model, document.occurrences? with
  | some model, some occurrences => occurrences.map (⟨model, ·⟩)
  | _, _ => []

end Document

namespace AssemblyDraft

variable {style : DiagramStyle} {assembly : String}

/-- Takes in what a document contributes. -/
def add (style : DiagramStyle) (assembly : String) (draft : AssemblyDraft)
    (contribution : Contribution) : AssemblyDraft :=
  draft.addOccurrence style assembly contribution.model contribution.occurrence

theorem foldl_add_skipped (contributions : List Contribution) (draft : AssemblyDraft)
    (skipped : Nat) :
    contributions.foldl (add style assembly) { draft with skipped }
      = { contributions.foldl (add style assembly) draft with skipped } := by
  induction contributions generalizing draft with
  | nil => rfl
  | cons contribution rest ih => exact ih (draft.add style assembly contribution)

theorem addDocument_eq (draft : AssemblyDraft) (document : Document) :
    draft.addDocument style assembly document
      = { document.contributions.foldl (add style assembly) draft with
          skipped := draft.skipped + if document.isComplete then 0 else 1 } := by
  unfold addDocument Document.contributions Document.isComplete Document.occurrences?
  cases document.model with
  | none => rfl
  | some model =>
      cases document.tree.bind (·.root) with
      | none => rfl
      | some declarations =>
          show (Occurrence.all declarations).foldl (addOccurrence style assembly model) draft
            = { ((Occurrence.all declarations).map (Contribution.mk model)).foldl
                  (add style assembly) draft with skipped := draft.skipped }
          rw [← foldl_add_skipped, List.foldl_map]
          rfl

theorem foldl_addDocument (documents : List Document) (draft : AssemblyDraft) :
    documents.foldl (addDocument style assembly) draft
      = { (documents.flatMap Document.contributions).foldl (add style assembly) draft with
          skipped := draft.skipped + documents.countP fun document => !document.isComplete } := by
  induction documents generalizing draft with
  | nil => rfl
  | cons document rest ih =>
      rw [List.foldl_cons, ih, addDocument_eq, foldl_add_skipped, List.flatMap_cons,
        List.foldl_append, List.countP_cons]
      cases document.isComplete with
      | true => rfl
      | false =>
          dsimp only
          rw [if_neg (by simp), if_pos (by simp), Nat.add_assoc, Nat.add_comm 1]

end AssemblyDraft

/-! ## Types by name -/

/-- The type that the declarations of a name describe when they are put together. The first
one decides what it is; bases and members come from all of them. -/
def describe? (occurrences : List Occurrence) (name : String) : Option IndexedType :=
  let here := occurrences.filter (·.qualifiedName == name)
  here.head?.map fun first =>
    { qualifiedName := name
      identifier := first.declaration.identifier
      kind := .ofDeclared first.declaration.keyword first.declaration.modifiers
      scope := first.scope
      declaredBases := Name.distinct (here.flatMap (·.declaration.bases))
      members := here.flatMap (·.declaration.members.filterMap Member.ofDeclared?) }

/-- The names that are declared, each where it comes first. -/
def declaredNames (occurrences : List Occurrence) : List String :=
  Name.distinct (occurrences.map Occurrence.qualifiedName)

theorem qualifiedName_of_describe? {occurrences : List Occurrence} {name : String}
    {type : IndexedType} (h : describe? occurrences name = some type) :
    type.qualifiedName = name := by
  obtain ⟨first, _, rfl⟩ := Option.map_eq_some_iff.1 h
  rfl

theorem declaredBases_of_describe? {occurrences : List Occurrence} {name : String}
    {type : IndexedType} (h : describe? occurrences name = some type) :
    type.declaredBases = Name.distinct
      ((occurrences.filter (·.qualifiedName == name)).flatMap (·.declaration.bases)) := by
  obtain ⟨first, _, rfl⟩ := Option.map_eq_some_iff.1 h
  rfl

theorem members_of_describe? {occurrences : List Occurrence} {name : String}
    {type : IndexedType} (h : describe? occurrences name = some type) :
    type.members = (occurrences.filter (·.qualifiedName == name)).flatMap
      (·.declaration.members.filterMap Member.ofDeclared?) := by
  obtain ⟨first, _, rfl⟩ := Option.map_eq_some_iff.1 h
  rfl

theorem declaredNames_concat (occurrences : List Occurrence) (last : Occurrence) :
    declaredNames (occurrences ++ [last])
      = Name.addNew (declaredNames occurrences) last.qualifiedName := by
  rw [declaredNames, List.map_append]
  exact Name.distinct_concat _ _

theorem describe?_eq_none_iff {occurrences : List Occurrence} {name : String} :
    describe? occurrences name = none ↔ name ∉ declaredNames occurrences := by
  simp [describe?, declaredNames, Name.mem_distinct]

theorem describe?_concat_of_ne {occurrences : List Occurrence} {last : Occurrence}
    {name : String} (h : name ≠ last.qualifiedName) :
    describe? (occurrences ++ [last]) name = describe? occurrences name := by
  have hlast : [last].filter (·.qualifiedName == name) = [] := by
    simpa using Ne.symm h
  rw [describe?, describe?, List.filter_append, hlast, List.append_nil]

theorem describe?_concat_of_some {occurrences : List Occurrence} {last : Occurrence}
    {type : IndexedType} (h : describe? occurrences last.qualifiedName = some type) :
    describe? (occurrences ++ [last]) last.qualifiedName
      = some (type.extend last.declaration) := by
  obtain ⟨first, hfirst, rfl⟩ := Option.map_eq_some_iff.1 h
  have hlast : [last].filter (·.qualifiedName == last.qualifiedName) = [last] := by simp
  simp only [describe?, IndexedType.extend, List.filter_append, hlast, List.flatMap_append,
    Name.distinct_append, List.flatMap_singleton, List.head?_append, hfirst, Option.some_or,
    Option.map_some]

theorem describe?_concat_of_none {occurrences : List Occurrence} {last : Occurrence}
    (h : describe? occurrences last.qualifiedName = none) :
    describe? (occurrences ++ [last]) last.qualifiedName
      = some ((IndexedType.ofOccurrence last).extend last.declaration) := by
  have hnone : occurrences.filter (·.qualifiedName == last.qualifiedName) = [] := by
    rw [describe?, Option.map_eq_none_iff] at h
    exact List.head?_eq_none_iff.1 h
  have hlast : [last].filter (·.qualifiedName == last.qualifiedName) = [last] := by simp
  simp only [describe?, IndexedType.extend, IndexedType.ofOccurrence, List.filter_append, hnone,
    hlast, List.nil_append, List.flatMap_singleton, List.head?_cons, Option.map_some]
  rfl

/-! ## Changing one type of a list -/

theorem updateType_of_ne {change : IndexedType → IndexedType} {new : IndexedType}
    {types : List IndexedType} (h : ∀ type ∈ types, type.qualifiedName ≠ new.qualifiedName) :
    updateType change new types = types ++ [change new] := by
  induction types with
  | nil => rfl
  | cons type rest ih =>
      rw [updateType, if_neg (h type List.mem_cons_self),
        ih fun other hother => h other (List.mem_cons_of_mem _ hother)]
      rfl

/-- A list of types that is read off a list of names changes at one name. -/
theorem updateType_filterMap {names : List String} {read read' : String → Option IndexedType}
    {change : IndexedType → IndexedType} {new type : IndexedType} (hnodup : names.Nodup)
    (hname : ∀ name type, read name = some type → type.qualifiedName = name)
    (hmem : new.qualifiedName ∈ names) (hold : read new.qualifiedName = some type)
    (hnew : read' new.qualifiedName = some (change type))
    (hsame : ∀ name, name ≠ new.qualifiedName → read' name = read name) :
    updateType change new (names.filterMap read) = names.filterMap read' := by
  induction names with
  | nil => exact absurd hmem List.not_mem_nil
  | cons name rest ih =>
      obtain ⟨hfresh, hrest⟩ := List.nodup_cons.1 hnodup
      by_cases he : name = new.qualifiedName
      · subst he
        rw [List.filterMap_cons_some hold, List.filterMap_cons_some hnew, updateType,
          if_pos (hname _ _ hold)]
        -- the name comes only once, so the rest of the list is as it was
        refine congrArg (change type :: ·) (List.filterMap_congr fun other hother => ?_)
        exact (hsame other fun ho => hfresh (ho ▸ hother)).symm
      · have hmem' : new.qualifiedName ∈ rest :=
          (List.mem_cons.1 hmem).resolve_left (Ne.symm he)
        cases hread : read name with
        | none =>
            rw [List.filterMap_cons_none hread,
              List.filterMap_cons_none ((hsame name he).trans hread)]
            exact ih hrest hmem'
        | some other =>
            rw [List.filterMap_cons_some hread,
              List.filterMap_cons_some ((hsame name he).trans hread), updateType,
              if_neg (fun h => he ((hname _ _ hread).symm.trans h)), ih hrest hmem']

/-! ## What a draft holds -/

namespace IndexedType

variable {style : DiagramStyle} {registry : SymbolRegistry} {assembly : String}

/-- The type with the connections that a registry gives it. -/
def connect (style : DiagramStyle) (registry : SymbolRegistry) (assembly : String)
    (type : IndexedType) : IndexedType :=
  type.withConnections (.ofType style registry assembly type)

theorem qualifiedName_connect (type : IndexedType) :
    (type.connect style registry assembly).qualifiedName = type.qualifiedName := rfl

end IndexedType

/-- The types that declarations describe, with the connections that a registry gives them. -/
def describedTypes (style : DiagramStyle) (registry : SymbolRegistry) (assembly : String)
    (occurrences : List Occurrence) : List IndexedType :=
  (declaredNames occurrences).filterMap fun name =>
    (describe? occurrences name).map (.connect style registry assembly)

theorem mem_describedTypes {style : DiagramStyle} {registry : SymbolRegistry}
    {assembly : String} {occurrences : List Occurrence} {type : IndexedType} :
    type ∈ describedTypes style registry assembly occurrences
      ↔ ∃ described, describe? occurrences type.qualifiedName = some described
        ∧ described.connect style registry assembly = type := by
  constructor
  · intro h
    obtain ⟨name, _, hread⟩ := List.mem_filterMap.1 h
    obtain ⟨described, hdescribed, rfl⟩ := Option.map_eq_some_iff.1 hread
    refine ⟨described, ?_, rfl⟩
    rw [IndexedType.qualifiedName_connect, qualifiedName_of_describe? hdescribed, hdescribed]
  · rintro ⟨described, hdescribed, hconnect⟩
    refine List.mem_filterMap.2 ⟨type.qualifiedName, ?_, by rw [hdescribed, ← hconnect]; rfl⟩
    by_contra hc
    rw [describe?_eq_none_iff.2 hc] at hdescribed
    exact absurd hdescribed (by simp)

namespace AssemblyDraft

variable {style : DiagramStyle} {assembly : String} {draft : AssemblyDraft}
  {contribution : Contribution} {occurrences : List Occurrence}

/-- What is taken in changes the registry for no other name. -/
theorem model?_add_of_ne {assembly' type : String}
    (h : ¬ (assembly = assembly' ∧ contribution.occurrence.qualifiedName = type)) :
    (draft.add style assembly contribution).registry.model? assembly' type
      = draft.registry.model? assembly' type := by
  show SymbolRegistry.model? (if _ then _ else _) _ _ = _
  split
  · rfl
  · exact SymbolRegistry.model?_add_of_ne h

/-- What is taken in leaves the types of other names as they are, connections included. -/
theorem describe?_connect_of_ne {name : String}
    (h : name ≠ contribution.occurrence.qualifiedName) :
    (describe? (occurrences ++ [contribution.occurrence]) name).map
        (IndexedType.connect style (draft.add style assembly contribution).registry assembly)
      = (describe? occurrences name).map
        (IndexedType.connect style draft.registry assembly) := by
  rw [describe?_concat_of_ne h]
  refine Option.map_congr fun type htype => ?_
  have hsymbol : (draft.add style assembly contribution).registry.symbol? assembly
      type.qualifiedName = draft.registry.symbol? assembly type.qualifiedName :=
    SymbolRegistry.symbol?_congr
      (model?_add_of_ne fun he => h (by rw [he.2, qualifiedName_of_describe? htype]))
  rw [IndexedType.connect, IndexedType.connect, Connections.ofType_congr hsymbol]

/-- A declaration of a new name puts its type behind the others. -/
theorem types_add_of_none
    (hold : describe? occurrences contribution.occurrence.qualifiedName = none)
    (h : draft.types = describedTypes style draft.registry assembly occurrences) :
    (draft.add style assembly contribution).types
      = describedTypes style (draft.add style assembly contribution).registry assembly
          (occurrences ++ [contribution.occurrence]) := by
  have hfresh := describe?_eq_none_iff.1 hold
  show updateType _ (.ofOccurrence contribution.occurrence) draft.types = _
  rw [updateType_of_ne, h, describedTypes, describedTypes, declaredNames_concat,
    Name.addNew_of_not_mem hfresh, List.filterMap_append]
  · refine congr (congrArg _ (List.filterMap_congr fun name hname => ?_)) ?_
    · exact (describe?_connect_of_ne fun he => hfresh (he ▸ hname)).symm
    · rw [List.filterMap_cons_some (by rw [describe?_concat_of_none hold]; rfl)]
      rfl
  · intro type htype he
    rw [h] at htype
    obtain ⟨described, hdescribed, _⟩ := mem_describedTypes.1 htype
    rw [he] at hdescribed
    exact absurd (hold.symm.trans hdescribed) (by simp)

/-- A further declaration of a name changes its type where it stands. -/
theorem types_add_of_some {type : IndexedType}
    (hold : describe? occurrences contribution.occurrence.qualifiedName = some type)
    (h : draft.types = describedTypes style draft.registry assembly occurrences) :
    (draft.add style assembly contribution).types
      = describedTypes style (draft.add style assembly contribution).registry assembly
          (occurrences ++ [contribution.occurrence]) := by
  have hmem : contribution.occurrence.qualifiedName ∈ declaredNames occurrences := by
    by_contra hc
    rw [describe?_eq_none_iff.2 hc] at hold
    exact absurd hold (by simp)
  show updateType _ (.ofOccurrence contribution.occurrence) draft.types = _
  rw [h, describedTypes, describedTypes, declaredNames_concat, Name.addNew_of_mem hmem]
  have hread : (describe? occurrences contribution.occurrence.qualifiedName).map
      (IndexedType.connect style draft.registry assembly)
      = some (type.connect style draft.registry assembly) := by
    rw [hold]
    rfl
  refine updateType_filterMap (Name.nodup_distinct _) ?_ hmem hread ?_ fun name hne =>
    describe?_connect_of_ne hne
  · intro name found hfound
    obtain ⟨described, hdescribed, rfl⟩ := Option.map_eq_some_iff.1 hfound
    exact (IndexedType.qualifiedName_connect _).trans (qualifiedName_of_describe? hdescribed)
  · show (describe? _ contribution.occurrence.qualifiedName).map _ = _
    rw [describe?_concat_of_some hold]
    rfl

/-- **The draft holds the types that the declarations describe**, connected as the registry
has it by then. -/
theorem types_foldl_add (contributions : List Contribution) (registry : SymbolRegistry)
    (skipped : Nat) :
    (contributions.foldl (add style assembly) { registry, skipped }).types
      = describedTypes style
          (contributions.foldl (add style assembly) { registry, skipped }).registry
          assembly (contributions.map (·.occurrence)) := by
  -- taken apart at the end, for what the last one does is told from the draft just before it
  induction contributions using List.reverseRecOn with
  | nil => rfl
  | append_singleton contributions last ih =>
      rw [List.foldl_append, List.foldl_cons, List.foldl_nil, List.map_append,
        List.map_singleton]
      cases hold : describe? (contributions.map (·.occurrence))
          last.occurrence.qualifiedName with
      | none => exact types_add_of_none hold ih
      | some type => exact types_add_of_some hold ih

end AssemblyDraft

end ClassDiagram
