import ClassDiagram.Proofs.Agreement
import ClassDiagram.Proofs.Outline
import ClassDiagram.Proofs.ProjectNames

/-!
# Manifests that differ in one project

All documents of a project share one stock of names. It is filled in the order of the manifest,
and also from documents that take no part in semantics. So a change of a project that its assembly
should not show can still show in the names that types are connected to.

`Index.SameUpToNames` says how much can change: the outline stays, and so does every type about
which, and about the types above which, the names still say the same. This holds when documents are
put in another order (`Manifest.sameUpToNames_reordered`) and when a document that takes no part in
semantics gets another tree (`Manifest.sameUpToNames_newTree`). After each of them comes an example
in which the names do not say the same.
-/

namespace ClassDiagram

/-! ## Types that have the same symbol -/

theorem SymbolRegistry.contains_congr {registry' registry : SymbolRegistry}
    (h : registry'.types = registry.types) (assembly type : String) :
    registry'.contains assembly type = registry.contains assembly type := by
  rw [Bool.eq_iff_iff, contains_iff, contains_iff, h]

namespace Index

variable {style : DiagramStyle}

/-- In two indexes with one outline a type is the same if it has the same symbol. -/
theorem exists_type_of_outline_eq {projects' projects : List Project}
    (houtline : (ofProjects style projects').outline = (ofProjects style projects).outline)
    {assembly : Assembly} {type : IndexedType}
    (hassembly : assembly ∈ (ofProjects style projects).assemblies)
    (htype : type ∈ assembly.types)
    (hsymbol : (ofProjects style projects').registry.symbol? assembly.name type.qualifiedName
      = (ofProjects style projects).registry.symbol? assembly.name type.qualifiedName) :
    ∃ assembly' ∈ (ofProjects style projects').assemblies,
      assembly'.name = assembly.name ∧ type ∈ assembly'.types := by
  -- the other index has a type of this outline
  have hmem : { assembly with types := assembly.types.map IndexedType.unconnected }
      ∈ (ofProjects style projects').outline.assemblies := by
    rw [houtline]
    exact List.mem_map_of_mem hassembly
  obtain ⟨assembly', hassembly', heq⟩ := List.mem_map.1 hmem
  obtain ⟨hname, htypes⟩ := Assembly.mk.inj heq
  have hunconnected : type.unconnected ∈ assembly'.types.map IndexedType.unconnected := by
    rw [htypes]
    exact List.mem_map_of_mem htype
  obtain ⟨type', htype', hsame⟩ := List.mem_map.1 hunconnected
  -- its connections are those of the symbol, so they are the same too
  have hrefs : Connections.mk type'.baseRef type'.interfaceRefs
      = ⟨type.baseRef, type.interfaceRefs⟩ := by
    calc Connections.mk type'.baseRef type'.interfaceRefs
        = .ofType style (ofProjects style projects').registry assembly.name
            type'.unconnected := hname ▸ refs_of_mem hassembly' htype'
      _ = .ofType style (ofProjects style projects').registry assembly.name type := by
          rw [hsame]; rfl
      _ = .ofType style (ofProjects style projects).registry assembly.name type :=
          Connections.ofType_congr hsymbol
      _ = ⟨type.baseRef, type.interfaceRefs⟩ := (refs_of_mem hassembly htype).symm
  have htypes : type' = type := by
    calc type' = type'.unconnected.withConnections ⟨type'.baseRef, type'.interfaceRefs⟩ := rfl
      _ = type.unconnected.withConnections ⟨type.baseRef, type.interfaceRefs⟩ := by
          rw [hsame, hrefs]
      _ = type := rfl
  exact ⟨assembly', hassembly', hname, htypes ▸ htype'⟩

end Index

namespace Manifest

variable {style : DiagramStyle}

/-- The names of the project that an assembly comes from answer for its types. -/
theorem exists_project_of_model? {manifest : Manifest} {assembly type : String}
    {model : SymbolModel}
    (h : (Index.ofProjects style manifest.toProjects).registry.model? assembly type
      = some model) :
    ∃ project, manifest.projects.find? (·.name == assembly) = some project
      ∧ model = project.names.symbol? := by
  rw [Index.model?_ofProjects] at h
  obtain ⟨accepted, haccepted, hmodel⟩ := Option.bind_eq_some_iff.1 h
  obtain ⟨contribution, hcontribution, rfl⟩ := Option.map_eq_some_iff.1 hmodel
  have hname : accepted.name = assembly := by simpa using List.find?_some haccepted
  obtain ⟨project, hproject, rfl⟩ := exists_project_of_indexed (List.mem_of_find?_eq_some haccepted)
  rw [hname] at hproject
  have hmem := List.mem_of_find?_eq_some hcontribution
  exact ⟨project, hproject, (ProjectEntry.of_mem_contributions hmem).1⟩

/-- A type that any model is entered for has the symbol that these names give it. -/
theorem symbol?_registry (manifest : Manifest) (assembly type : String) :
    (Index.ofProjects style manifest.toProjects).registry.symbol? assembly type
      = if (Index.ofProjects style manifest.toProjects).registry.contains assembly type then
          (manifest.projects.find? (·.name == assembly)).bind (·.names.symbol? type)
        else none := by
  rw [SymbolRegistry.contains_eq_isSome, SymbolRegistry.symbol?]
  cases hmodel : (Index.ofProjects style manifest.toProjects).registry.model? assembly type with
  | none => rfl
  | some model =>
      obtain ⟨project, hproject, rfl⟩ := exists_project_of_model? hmodel
      rw [hproject]
      rfl

/-! ## Projects that differ in their names -/

/-- The document with this model, if it takes part in semantics. -/
def DocumentEntry.withModel (model : SymbolModel) (document : DocumentEntry) : Document where
  name := document.name
  model := if document.semantic then some model else none
  tree := document.tree

namespace ProjectEntry

/-- The project with this model for its documents. -/
def withModel (model : SymbolModel) (project : ProjectEntry) : Project where
  name := project.name
  documents := project.documents.map (DocumentEntry.withModel model)

theorem toProject_eq (project : ProjectEntry) :
    project.toProject = project.withModel project.names.symbol? :=
  rfl

/-- Without what its model knows a project is one whose model knows nothing. -/
theorem blinded_toProject (project : ProjectEntry) :
    project.toProject.mapDocuments Document.blinded = project.withModel fun _ => none := by
  have hdocument : ∀ document : DocumentEntry,
      (document.withModel project.names.symbol?).blinded = document.withModel fun _ => none := by
    intro document
    unfold DocumentEntry.withModel Document.blinded
    cases document.semantic with
    | true => rfl
    | false => rfl
  rw [toProject_eq]
  unfold Project.mapDocuments withModel
  dsimp only
  rw [List.map_map]
  exact congrArg (Project.mk project.name ·) (List.map_congr_left fun d _ => hdocument d)

/-- The project has the same facts, and given any model it looks the same to an index. -/
structure SameUpToNames (project' project : ProjectEntry) : Prop where
  symbols : project'.symbols = project.symbols
  visible : ∀ model, Project.Rearranged
    ((project'.withModel model).mapDocuments Document.visible)
    ((project.withModel model).mapDocuments Document.visible)

end ProjectEntry

end Manifest

/-- One project may be replaced by another that looks the same. -/
theorem Index.ofProjects_replace {style : DiagramStyle} {project' project : Project}
    (h : (project'.mapDocuments Document.visible).Rearranged
      (project.mapDocuments Document.visible)) (before after : List Project) :
    ofProjects style (before ++ project' :: after)
      = ofProjects style (before ++ project :: after) := by
  have hrearranged : Codebase.Rearranged
      ((before ++ project' :: after).map (Project.mapDocuments Document.visible))
      ((before ++ project :: after).map (Project.mapDocuments Document.visible)) := by
    rw [List.map_append, List.map_append, List.map_cons, List.map_cons]
    refine ⟨_, .refl _, List.rel_append ?_ (.cons h ?_)⟩
    · exact List.forall₂_same.2 fun project _ => ⟨rfl, .refl _⟩
    · exact List.forall₂_same.2 fun project _ => ⟨rfl, .refl _⟩
  rw [← ofProjects_visible, ofProjects_rearranged hrearranged, ofProjects_visible]

/-- What stays the same in an index when the names of one project change, from which the assembly
`owner` comes. -/
structure Index.SameUpToNames (owner : String) (names' names : DeclaredNames)
    (index' index : Index) : Prop where
  outline : index'.outline = index.outline
  /-- A type stays the same unless it is in that assembly, and the names differ about it or about
  a type above it. -/
  types : ∀ assembly ∈ index.assemblies, ∀ type ∈ assembly.types,
    (assembly.name = owner → names'.AgreesAbout names type.qualifiedName) →
      ∃ assembly' ∈ index'.assemblies, assembly'.name = assembly.name ∧ type ∈ assembly'.types
  /-- Nothing changes if the names do not differ. -/
  all : (∀ type, names'.AgreesAbout names type) → index' = index

namespace Manifest

variable {style : DiagramStyle} {project' project : ProjectEntry}

namespace ProjectEntry.SameUpToNames

variable (h : project'.SameUpToNames project)

include h

theorem name_eq : project'.name = project.name :=
  (h.visible fun _ => none).name_eq

/-- The same facts are given, so where the names agree they answer alike. -/
theorem symbol?_eq {type : String} (hagree : project'.names.AgreesAbout project.names type) :
    project'.names.symbol? type = project.names.symbol? type := by
  refine DeclaredNames.symbol?_eq_of_agreesAbout hagree ?_
  rw [names_eq, names_eq, DeclaredNames.facts?, DeclaredNames.facts?, h.symbols]

/-- Whatever is not known by a model does not change. -/
theorem outline_eq (before after : List ProjectEntry) :
    (Index.ofProjects style (toProjects ⟨before ++ project' :: after⟩)).outline
      = (Index.ofProjects style (toProjects ⟨before ++ project :: after⟩)).outline := by
  have hblinded : ∀ project : ProjectEntry,
      (toProjects ⟨before ++ project :: after⟩).map (Project.mapDocuments Document.blinded)
        = (toProjects ⟨before⟩).map (Project.mapDocuments Document.blinded)
          ++ project.withModel (fun _ => none)
            :: (toProjects ⟨after⟩).map (Project.mapDocuments Document.blinded) := by
    intro project
    unfold toProjects
    rw [List.map_append, List.map_cons, List.map_append, List.map_cons, blinded_toProject]
  -- what the models know has no part in the outline, so they may as well know nothing
  rw [← Index.outline_blinded, hblinded, Index.ofProjects_replace (h.visible _), ← hblinded,
    Index.outline_blinded]

/-- The symbols of other assemblies do not change, and neither do those about which the names
agree. -/
theorem symbol?_registry_eq (before after : List ProjectEntry) {assembly type : String}
    (hagree : assembly = project.name → project'.names.AgreesAbout project.names type) :
    (Index.ofProjects style (toProjects ⟨before ++ project' :: after⟩)).registry.symbol?
        assembly type
      = (Index.ofProjects style (toProjects ⟨before ++ project :: after⟩)).registry.symbol?
        assembly type := by
  have houtline : (Index.ofProjects style (toProjects ⟨before ++ project' :: after⟩)).outline
      = (Index.ofProjects style (toProjects ⟨before ++ project :: after⟩)).outline :=
    h.outline_eq before after
  have hregistered := congrArg Outline.registered houtline
  have hcontains := SymbolRegistry.contains_congr hregistered assembly type
  have hanswer :
      ((before ++ project' :: after).find? (·.name == assembly)).bind (·.names.symbol? type)
        = ((before ++ project :: after).find? (·.name == assembly)).bind
            (·.names.symbol? type) := by
    -- an earlier project of this name, if there is one, answers on both sides
    rw [List.find?_append, List.find?_append]
    cases before.find? (·.name == assembly) with
    | some earlier => rfl
    | none =>
        rw [Option.none_or, Option.none_or]
        by_cases hname : assembly = project.name
        · rw [List.find?_cons_of_pos (by simp [h.name_eq, hname]),
            List.find?_cons_of_pos (by simp [hname])]
          exact h.symbol?_eq (hagree hname)
        · rw [List.find?_cons_of_neg (by simpa [h.name_eq] using Ne.symm hname),
            List.find?_cons_of_neg (by simpa using Ne.symm hname)]
  rw [symbol?_registry, symbol?_registry, hcontains, hanswer]

/-- **A change that only the names can show.** -/
theorem index (before after : List ProjectEntry) :
    Index.SameUpToNames project.name project'.names project.names
      (Index.ofProjects style (toProjects ⟨before ++ project' :: after⟩))
      (Index.ofProjects style (toProjects ⟨before ++ project :: after⟩)) where
  outline := h.outline_eq before after
  types := by
    intro assembly hassembly type htype hagree
    exact Index.exists_type_of_outline_eq (h.outline_eq before after) hassembly htype
      (h.symbol?_registry_eq before after hagree)
  all := by
    intro hagree
    -- the documents have the same model then, and the rest of them looks the same anyhow
    have hmodel : project'.names.symbol? = project.names.symbol? :=
      funext fun type => h.symbol?_eq (hagree type)
    unfold toProjects
    rw [List.map_append, List.map_cons, List.map_append, List.map_cons, toProject_eq, toProject_eq,
      hmodel]
    exact Index.ofProjects_replace (h.visible _) _ _

end ProjectEntry.SameUpToNames

/-! ## Manifests of one project -/

/-- The index of a project whose documents come in this order by name. -/
theorem ofProjects_of_sorted {documents : List DocumentEntry} (hname : project.name ≠ "")
    (hsorted : Text.sortedByName DocumentEntry.name project.documents = documents) :
    Index.ofProjects style (toProjects ⟨[project]⟩)
      = let draft := (documents.map (DocumentEntry.withModel project.names.symbol?)).foldl
          (AssemblyDraft.addDocument style project.name) { registry := {}, skipped := 0 }
        { assemblies := [⟨project.name, draft.types.map IndexedType.withSortedMembers⟩]
          registry := draft.registry
          skipped := draft.skipped } := by
  have hindexed : indexedProjects (toProjects ⟨[project]⟩)
      = [project.withModel project.names.symbol?] := by
    have hname : (project.withModel project.names.symbol?).name ≠ "" := hname
    simp [toProjects, ProjectEntry.toProject_eq, indexedProjects, Text.sortedByName,
      firstOfEachName, hname]
  have hdocuments : Text.sortedByName Document.name
        (project.withModel project.names.symbol?).documents
      = documents.map (DocumentEntry.withModel project.names.symbol?) := by
    rw [← hsorted]
    exact Text.sortedByName_map (fun _ => rfl) project.documents
  rw [Index.ofProjects, hindexed, List.foldl_cons, List.foldl_nil, Index.addProject, hdocuments]
  rfl

/-- A document with one class. -/
def classEntry (name scope identifier : String) (bases : List String) : DocumentEntry where
  name := name
  tree := some
    { root := some
        [{ keyword := .forClass, identifier := identifier, ownNamespace := some scope,
           bases := bases, members := [.property [] "Name" "string"] }] }

/-- A project in which a class has a base that is declared nowhere around it. -/
def zoo (others : List DocumentEntry) : ProjectEntry where
  name := "Zoo"
  symbols := .ofList []
  documents := others ++ [classEntry "Dog.cs" "Zoo" "Dog" ["Animal"]]

/-! ## The order of documents -/

/-- **The documents of a project in another order.** If they all have different names, then only
the names of the project can tell. -/
theorem sameUpToNames_reordered (style : DiagramStyle) (before after : List ProjectEntry)
    {documents : List DocumentEntry}
    (hnodup : (project.documents.map DocumentEntry.name).Nodup)
    (hperm : documents.Perm project.documents) :
    let reordered : ProjectEntry := { project with documents := documents }
    Index.SameUpToNames project.name reordered.names project.names
      (Index.ofProjects style (toProjects ⟨before ++ reordered :: after⟩))
      (Index.ofProjects style (toProjects ⟨before ++ project :: after⟩)) := by
  intro reordered
  have hsame : reordered.SameUpToNames project := by
    refine ⟨rfl, fun model => ⟨rfl, ?_⟩⟩
    have hperm' := (hperm.map (DocumentEntry.withModel model)).map Document.visible
    refine .of_perm hperm' ?_
    have hnames : ((project.documents.map (DocumentEntry.withModel model)).map
        Document.visible).map Document.name = project.documents.map DocumentEntry.name := by
      rw [List.map_map, List.map_map]
      exact List.map_congr_left fun document _ => Document.name_visible _
    show ((project.documents.map _).map Document.visible |>.map Document.name).Nodup
    rw [hnames]
    exact hnodup
  exact hsame.index before after

/-- Two classes with one identifier. -/
def wild : DocumentEntry :=
  classEntry "A.cs" "Wild" "Animal" []

def farm : DocumentEntry :=
  classEntry "B.cs" "Farm" "Animal" []

/-- The base of a class may change with the order of documents: it is the first type that has the
identifier. -/
theorem reordered_ne_zoo :
    ((zoo [wild, farm]).documents.map DocumentEntry.name).Nodup
      ∧ (zoo [farm, wild]).documents.Perm (zoo [wild, farm]).documents
      ∧ ((Index.ofProjects {} (toProjects ⟨[zoo [wild, farm]]⟩)).type? "Zoo" "Zoo.Dog").map
          (·.baseRef) = some (some "Wild.Animal")
      ∧ ((Index.ofProjects {} (toProjects ⟨[zoo [farm, wild]]⟩)).type? "Zoo" "Zoo.Dog").map
          (·.baseRef) = some (some "Farm.Animal")
      ∧ Index.ofProjects {} (toProjects ⟨[zoo [farm, wild]]⟩)
          ≠ Index.ofProjects {} (toProjects ⟨[zoo [wild, farm]]⟩) := by
  have hwild : Text.sortedByName DocumentEntry.name (zoo [wild, farm]).documents
      = (zoo [wild, farm]).documents := List.mergeSort_of_pairwise (by decide)
  have hfarm : Text.sortedByName DocumentEntry.name (zoo [farm, wild]).documents
      = (zoo [wild, farm]).documents :=
    (Rearranged.swap (by decide) [] _).sortedByName_eq.trans hwild
  have hwildBase : ((Index.ofProjects {} (toProjects ⟨[zoo [wild, farm]]⟩)).type? "Zoo"
      "Zoo.Dog").map (·.baseRef) = some (some "Wild.Animal") := by
    rw [ofProjects_of_sorted (by decide) hwild]
    decide
  have hfarmBase : ((Index.ofProjects {} (toProjects ⟨[zoo [farm, wild]]⟩)).type? "Zoo"
      "Zoo.Dog").map (·.baseRef) = some (some "Farm.Animal") := by
    rw [ofProjects_of_sorted (by decide) hfarm]
    decide
  refine ⟨by decide, .swap wild farm _, hwildBase, hfarmBase, fun heq => ?_⟩
  rw [heq, hwildBase] at hfarmBase
  exact absurd hfarmBase (by decide)

/-- A class that shares no name with the others may be listed anywhere. -/
theorem sameUpToNames_reordered_zoo :
    ((zoo [wild, farm]).documents.map DocumentEntry.name).Nodup
      ∧ [wild, classEntry "Dog.cs" "Zoo" "Dog" ["Animal"], farm].Perm (zoo [wild, farm]).documents
      ∧ Index.ofProjects {} (toProjects ⟨[{ zoo [] with
            documents := [wild, classEntry "Dog.cs" "Zoo" "Dog" ["Animal"], farm] }]⟩)
          = Index.ofProjects {} (toProjects ⟨[zoo [wild, farm]]⟩) := by
  have hnodup : ((zoo [wild, farm]).documents.map DocumentEntry.name).Nodup := by decide
  have hperm : [wild, classEntry "Dog.cs" "Zoo" "Dog" ["Animal"], farm].Perm
      (zoo [wild, farm]).documents := (List.Perm.swap _ _ _).cons wild
  have hsame := sameUpToNames_reordered {} [] [] hnodup hperm
  refine ⟨hnodup, hperm, hsame.all fun type => .inr fun above _ => ?_⟩
  refine DeclaredNames.agreesAt_of_rearranged ?_ ?_ above
  · exact Rearranged.swap (by decide) [_] []
  · exact Rearranged.swap (by decide) [_] []

/-! ## Documents that take no part in semantics -/

/-- **A document without semantics with another tree.** Only the names of the project can tell. -/
theorem sameUpToNames_newTree (style : DiagramStyle) (before after : List ProjectEntry)
    {front back : List DocumentEntry} {document : DocumentEntry}
    (hsemantic : document.semantic = false)
    (hdocuments : project.documents = front ++ document :: back) (tree : Option SourceTree) :
    let changed : ProjectEntry :=
      { project with documents := front ++ { document with tree := tree } :: back }
    Index.SameUpToNames project.name changed.names project.names
      (Index.ofProjects style (toProjects ⟨before ++ changed :: after⟩))
      (Index.ofProjects style (toProjects ⟨before ++ project :: after⟩)) := by
  intro changed
  have hsame : changed.SameUpToNames project := by
    refine ⟨rfl, fun model => ⟨rfl, ?_⟩⟩
    have hvisible : (DocumentEntry.withModel model { document with tree := tree }).visible
        = (document.withModel model).visible := by
      unfold DocumentEntry.withModel Document.visible
      rw [hsemantic]
      rfl
    show Rearranged _ (((front ++ _ :: back).map _).map _) ((project.documents.map _).map _)
    rw [hdocuments, List.map_append, List.map_append, List.map_append, List.map_append,
      List.map_cons, List.map_cons, List.map_cons, List.map_cons, hvisible]
    exact .refl _
  exact hsame.index before after

/-- A class in a document that takes no part in semantics. -/
def loose : DocumentEntry :=
  { classEntry "Animal.cs" "Zoo.Core" "Animal" [] with semantic := false }

/-- A document that takes no part in semantics can give a class its base. -/
theorem newTree_ne_zoo :
    loose.semantic = false
      ∧ ((Index.ofProjects {} (toProjects ⟨[zoo [loose]]⟩)).type? "Zoo" "Zoo.Dog").map (·.baseRef)
        = some (some "Zoo.Core.Animal")
      ∧ ((Index.ofProjects {} (toProjects ⟨[zoo [{ loose with tree := none }]]⟩)).type? "Zoo"
          "Zoo.Dog").map (·.baseRef) = some (some "Animal")
      ∧ Index.ofProjects {} (toProjects ⟨[zoo [{ loose with tree := none }]]⟩)
          ≠ Index.ofProjects {} (toProjects ⟨[zoo [loose]]⟩) := by
  have hbase : ((Index.ofProjects {} (toProjects ⟨[zoo [loose]]⟩)).type? "Zoo" "Zoo.Dog").map
      (·.baseRef) = some (some "Zoo.Core.Animal") := by
    rw [ofProjects_of_sorted (by decide) (List.mergeSort_of_pairwise (by decide))]
    decide
  have hnone : ((Index.ofProjects {} (toProjects ⟨[zoo [{ loose with tree := none }]]⟩)).type?
      "Zoo" "Zoo.Dog").map (·.baseRef) = some (some "Animal") := by
    rw [ofProjects_of_sorted (by decide) (List.mergeSort_of_pairwise (by decide))]
    decide
  refine ⟨rfl, hbase, hnone, fun heq => ?_⟩
  rw [heq, hbase] at hnone
  exact absurd hnone (by decide)

/-- The same class without members. -/
def looseTree : SourceTree where
  root := some [{ keyword := .forClass, identifier := "Animal", ownNamespace := some "Zoo.Core" }]

/-- The members that are declared in such a document do not matter. -/
theorem sameUpToNames_newTree_zoo :
    loose.semantic = false
      ∧ (zoo [loose]).documents = [] ++ loose :: [classEntry "Dog.cs" "Zoo" "Dog" ["Animal"]]
      ∧ Index.ofProjects {} (toProjects ⟨[zoo [{ loose with tree := some looseTree }]]⟩)
          = Index.ofProjects {} (toProjects ⟨[zoo [loose]]⟩) := by
  have hdocuments : (zoo [loose]).documents
      = [] ++ loose :: [classEntry "Dog.cs" "Zoo" "Dog" ["Animal"]] := rfl
  have hsame := sameUpToNames_newTree {} [] [] rfl hdocuments (some looseTree)
  refine ⟨rfl, hdocuments, hsame.all fun type => .inr fun above _ => ?_⟩
  exact DeclaredNames.agreesAt_of_rearranged (.refl _) (.refl _) above

end Manifest

end ClassDiagram
