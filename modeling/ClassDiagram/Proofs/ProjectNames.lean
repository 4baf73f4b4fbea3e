import ClassDiagram.Manifest.Codebase
import ClassDiagram.Proofs.Inheritance
import ClassDiagram.Proofs.Registrations

/-!
# What a project knows of the types in its assembly

The types of a manifest's project are put together twice. The index merges the declarations of
the semantic documents, in the order of the documents' names, and keeps the types that come out;
the names of the project keep the declarations of all documents, in the order of the manifest,
and answer with what they infer.

`Manifest.exists_inferred` says how far the two agree about a type of the index: the names know
it too, with at least the same bases, and they are what the registry answers with. The kind and
the namespace need not agree, for the first declaration may be another one.
-/

namespace ClassDiagram

/-! ## The names of a project -/

namespace Manifest

/-- The declarations of a document, nested ones included, whether it takes part in semantics or
not. -/
def DocumentEntry.occurrences (document : DocumentEntry) : List Occurrence :=
  ((document.tree.bind (·.root)).map Occurrence.all).getD []

namespace ProjectEntry

/-- The declarations of all documents, in the order of the manifest. -/
def occurrences (project : ProjectEntry) : List Occurrence :=
  project.documents.flatMap DocumentEntry.occurrences

theorem foldl_addFacts (entries : List (String × SymbolFacts)) (names : DeclaredNames) :
    entries.foldl (fun names entry => names.addFacts entry.1 entry.2) names
      = { names with given := entries.reverse ++ names.given } := by
  induction entries generalizing names with
  | nil => rfl
  | cons entry rest ih =>
      rw [List.foldl_cons, ih, List.reverse_cons, List.append_assoc]
      rfl

theorem foldl_addTree (documents : List DocumentEntry) (names : DeclaredNames) :
    documents.foldl (fun names document =>
        match document.tree.bind (·.root) with
        | some declarations => names.addTree declarations
        | none => names) names
      = { names with
          declarations := names.declarations
            ++ (documents.flatMap DocumentEntry.occurrences).map Occurrence.known } := by
  induction documents generalizing names with
  | nil => rw [List.flatMap_nil, List.map_nil, List.append_nil]; rfl
  | cons document rest ih =>
      rw [List.foldl_cons, ih, List.flatMap_cons, List.map_append, DocumentEntry.occurrences]
      cases document.tree.bind (·.root) with
      | none => rfl
      | some declarations =>
          dsimp only
          rw [DeclaredNames.addTree, List.append_assoc]
          rfl

theorem names_eq (project : ProjectEntry) :
    project.names
      = { declarations := project.occurrences.map Occurrence.known
          given := project.symbols.entries.reverse } := by
  have htrees := foldl_addTree project.documents {}
  refine (congrArg (project.symbols.entries.foldl _) htrees).trans ?_
  rw [foldl_addFacts, List.append_nil, List.nil_append]
  rfl

/-- Without an entry in the table of symbols there are no given facts. -/
theorem facts?_eq_none {project : ProjectEntry} {type : String}
    (h : ∀ facts, (type, facts) ∉ project.symbols.entries) :
    project.names.facts? type = none := by
  rw [names_eq, DeclaredNames.facts?, List.lookup_eq_none_iff]
  intro entry hentry
  rw [bne_iff_ne]
  rintro rfl
  exact h entry.2 (List.mem_reverse.1 hentry)

/-- A declaration of the project makes its type known, with all the bases it names. -/
theorem exists_type?_of_mem {project : ProjectEntry} {occurrence : Occurrence}
    (h : occurrence ∈ project.occurrences) :
    ∃ known, project.names.type? occurrence.qualifiedName = some known := by
  refine DeclaredNames.exists_type?_of_declares (DeclaredNames.declares_iff.2 ?_)
  rw [names_eq]
  exact ⟨occurrence.known, List.mem_map_of_mem h, rfl⟩

theorem mem_bases_of_mem {project : ProjectEntry} {occurrence : Occurrence}
    (h : occurrence ∈ project.occurrences) {known : KnownType}
    (hknown : project.names.type? occurrence.qualifiedName = some known) {entry : String}
    (hentry : entry ∈ occurrence.declaration.bases) : entry ∈ known.bases := by
  rw [names_eq] at hknown
  obtain ⟨first, _, rfl⟩ := Option.map_eq_some_iff.1 hknown
  refine Name.mem_distinct.2 (List.mem_flatMap.2 ⟨occurrence.known, ?_, hentry⟩)
  exact List.mem_filter.2 ⟨List.mem_map_of_mem h, beq_self_eq_true _⟩

/-- A known type is called by its namespace and the identifier of its first declaration. -/
theorem exists_identifier {project : ProjectEntry} {type : String} {known : KnownType}
    (h : project.names.type? type = some known) :
    ∃ identifier, type = Name.inNamespace known.scope identifier := by
  rw [names_eq] at h
  obtain ⟨first, hfirst, rfl⟩ := Option.map_eq_some_iff.1 h
  obtain ⟨hmem, hname⟩ := List.mem_filter.1 (List.mem_of_mem_head? hfirst)
  obtain ⟨occurrence, _, rfl⟩ := List.mem_map.1 hmem
  exact ⟨occurrence.declaration.identifier, (beq_iff_eq.1 hname).symm⟩

/-! ## The project as part of a codebase -/

/-- A semantic document contributes its declarations, with the names of the project to answer for
them. -/
theorem contributions_document (model : SymbolModel) (document : DocumentEntry) :
    Document.contributions
        { name := document.name
          model := if document.semantic then some model else none
          tree := document.tree }
      = if document.semantic then document.occurrences.map (Contribution.mk model) else [] := by
  unfold Document.contributions Document.occurrences? DocumentEntry.occurrences
  cases document.semantic with
  | false => rfl
  | true =>
      cases document.tree.bind (·.root) with
      | none => simp
      | some declarations => simp

/-- What the project contributes to its assembly are declarations of its own, and its names
answer for all of them. -/
theorem of_mem_contributions {project : ProjectEntry} {contribution : Contribution}
    (h : contribution ∈ project.toProject.contributions) :
    contribution.model = project.names.symbol?
      ∧ contribution.occurrence ∈ project.occurrences := by
  obtain ⟨document, hdocument, hcontribution⟩ := List.mem_flatMap.1 h
  have hperm := (stablySorted_sortedByName Document.name project.toProject.documents).perm
  obtain ⟨entry, hentry, rfl⟩ := List.mem_map.1 (hperm.mem_iff.1 hdocument)
  rw [contributions_document] at hcontribution
  split at hcontribution
  · obtain ⟨occurrence, hoccurrence, rfl⟩ := List.mem_map.1 hcontribution
    exact ⟨rfl, List.mem_flatMap.2 ⟨entry, hentry, hoccurrence⟩⟩
  · exact absurd hcontribution List.not_mem_nil

end ProjectEntry

/-! ## The types of an index -/

section

variable {style : DiagramStyle} {manifest : Manifest} {assembly : Assembly} {type : IndexedType}
  {project : ProjectEntry} {known : KnownType}

/-- A type of an index, with the project it comes from and what this project knows of it. -/
structure Inferred (style : DiagramStyle) (manifest : Manifest) (assembly : Assembly)
    (type : IndexedType) (project : ProjectEntry) (known : KnownType) : Prop where
  /-- The project is the first one that has the name of the assembly. -/
  project_eq : manifest.projects.find? (·.name == assembly.name) = some project
  known_eq : project.names.type? type.qualifiedName = some known
  /-- The names know of all bases. There may be others from documents left out. -/
  bases : ∀ entry ∈ type.declaredBases, entry ∈ known.bases
  /-- If a model is entered for the type, then it is that of the project. -/
  model_eq : ∀ model, (Index.ofProjects style manifest.toProjects).registry.model?
    assembly.name type.qualifiedName = some model → model = project.names.symbol?

/-- An accepted project is the first one of its name. -/
theorem exists_project_of_indexed {accepted : Project}
    (h : accepted ∈ indexedProjects manifest.toProjects) :
    ∃ project, manifest.projects.find? (·.name == accepted.name) = some project
      ∧ project.toProject = accepted := by
  have hfirst := (mem_indexedProjects.1 h).2
  rw [toProjects, List.find?_map] at hfirst
  exact Option.map_eq_some_iff.1 hfirst

/-- An assembly comes from the first project of its name. -/
theorem exists_project_of_mem
    (h : assembly ∈ (Index.ofProjects style manifest.toProjects).assemblies) :
    ∃ project, manifest.projects.find? (·.name == assembly.name) = some project
      ∧ (indexedProjects manifest.toProjects).find? (·.name == assembly.name)
        = some project.toProject
      ∧ assembly = project.toProject.assembly style
          (Index.ofProjects style manifest.toProjects).registry := by
  rw [Index.ofProjects_assemblies] at h
  obtain ⟨accepted, haccepted, rfl⟩ := List.mem_map.1 h
  obtain ⟨project, hproject, rfl⟩ := exists_project_of_indexed haccepted
  have hunique := find?_eq_some_of_nodup (nodup_indexedProjects manifest.toProjects) haccepted
  exact ⟨project, hproject, hunique, rfl⟩

/-- **The index and the names agree** about every type of the index. -/
theorem exists_inferred
    (hassembly : assembly ∈ (Index.ofProjects style manifest.toProjects).assemblies)
    (htype : type ∈ assembly.types) :
    ∃ project known, Inferred style manifest assembly type project known := by
  obtain ⟨project, hproject, haccepted, heq⟩ := exists_project_of_mem hassembly
  rw [heq] at htype
  have hdescribed : DescribedBy (project.toProject.contributions.map (·.occurrence))
      (project.toProject.assembly style
        (Index.ofProjects style manifest.toProjects).registry).types :=
    describedBy_assembly project.toProject
  -- the documents that are indexed declare nothing that the names do not know of
  have hdeclared : ∀ occurrence ∈ project.toProject.contributions.map (·.occurrence),
      occurrence ∈ project.occurrences := by
    intro occurrence hoccurrence
    obtain ⟨contribution, hcontribution, rfl⟩ := List.mem_map.1 hoccurrence
    exact (ProjectEntry.of_mem_contributions hcontribution).2
  -- so the declaration that makes the type known to the index makes it known to them
  obtain ⟨first, hfirst, _⟩ := hdescribed.first type htype
  have hname : first.qualifiedName = type.qualifiedName := by
    simpa using List.find?_some hfirst
  obtain ⟨known, hknown⟩ :=
    ProjectEntry.exists_type?_of_mem (hdeclared first (List.mem_of_find?_eq_some hfirst))
  rw [hname] at hknown
  refine ⟨project, known, hproject, hknown, ?_, ?_⟩
  · intro entry hentry
    rw [hdescribed.bases type htype, List.mem_eraseDups] at hentry
    obtain ⟨occurrence, hoccurrence, hbase⟩ := List.mem_flatMap.1 hentry
    obtain ⟨hmem, hsame⟩ := List.mem_filter.1 hoccurrence
    refine ProjectEntry.mem_bases_of_mem (hdeclared occurrence hmem) ?_ hbase
    rw [beq_iff_eq.1 hsame]
    exact hknown
  · intro model hmodel
    rw [Index.model?_ofProjects, haccepted, Option.bind_some] at hmodel
    obtain ⟨contribution, hcontribution, rfl⟩ := Option.map_eq_some_iff.1 hmodel
    exact (ProjectEntry.of_mem_contributions (List.mem_of_find?_eq_some hcontribution)).1

/-- What the documents of an accepted project describe is in its assembly. -/
theorem exists_type_of_describe? {projects : List Project} {accepted : Project}
    (haccepted : accepted ∈ indexedProjects projects) {name : String} {described : IndexedType}
    (h : describe? (accepted.contributions.map (·.occurrence)) name = some described) :
    ∃ assembly ∈ (Index.ofProjects style projects).assemblies, ∃ type ∈ assembly.types,
      assembly.name = accepted.name ∧ type.qualifiedName = name ∧ type.kind = described.kind
        ∧ type.declaredBases = described.declaredBases := by
  have hname := qualifiedName_of_describe? h
  let registry := (Index.ofProjects style projects).registry
  have hassembly : accepted.assembly style registry
      ∈ (Index.ofProjects style projects).assemblies := by
    rw [Index.ofProjects_assemblies]
    exact List.mem_map_of_mem haccepted
  have htype : (described.connect style registry accepted.name).withSortedMembers
      ∈ (accepted.assembly style registry).types := by
    refine List.mem_map_of_mem (mem_describedTypes.2 ⟨described, ?_, rfl⟩)
    rw [IndexedType.qualifiedName_connect, hname]
    exact h
  exact ⟨_, hassembly, _, htype, rfl, hname, rfl, rfl⟩

/-- The types of a project that has only one document, and a semantic one. -/
theorem exists_type_of_document (style : DiagramStyle) (project : ProjectEntry) (name : String)
    {document : DocumentEntry} {described : IndexedType}
    (hdocuments : project.documents = [document]) (hsemantic : document.semantic = true)
    (hproject : project.name ≠ "")
    (hdescribed : describe? document.occurrences name = some described)
    (hmembers : document.occurrences.any (fun occurrence =>
      !occurrence.declaration.members.isEmpty && occurrence.qualifiedName == name) = true) :
    ∃ assembly ∈ (Index.ofProjects style (toProjects ⟨[project]⟩)).assemblies,
      ∃ type ∈ assembly.types, assembly.name = project.name ∧ type.qualifiedName = name
        ∧ type.kind = described.kind ∧ type.declaredBases = described.declaredBases
        ∧ (Index.ofProjects style (toProjects ⟨[project]⟩)).registry.contains assembly.name
          type.qualifiedName = true := by
  have haccepted : project.toProject ∈ indexedProjects (toProjects ⟨[project]⟩) :=
    mem_indexedProjects.2 ⟨hproject, by simp [toProjects]⟩
  have hcontributions : project.toProject.contributions
      = document.occurrences.map (Contribution.mk project.names.symbol?) := by
    have hsorted : Text.sortedByName Document.name project.toProject.documents
        = project.toProject.documents := by
      refine List.mergeSort_of_pairwise ?_
      rw [ProjectEntry.toProject, hdocuments]
      exact List.pairwise_singleton _ _
    rw [Project.contributions, hsorted, ProjectEntry.toProject, hdocuments, List.map_singleton,
      List.flatMap_singleton, ProjectEntry.contributions_document, if_pos hsemantic]
  have hoccurrences : project.toProject.contributions.map (·.occurrence)
      = document.occurrences := by
    rw [hcontributions, List.map_map]
    exact List.map_id _
  have hregistered : (Index.ofProjects style (toProjects ⟨[project]⟩)).registry.contains
      project.toProject.name name = true := by
    rw [Index.contains_ofProjects haccepted, hcontributions, List.any_map]
    exact hmembers
  rw [← hoccurrences] at hdescribed
  obtain ⟨assembly, hassembly, type, htype, hname, hqualified, hkind, hbases⟩ :=
    exists_type_of_describe? haccepted hdescribed
  rw [← hname, ← hqualified] at hregistered
  exact ⟨assembly, hassembly, type, htype, hname, hqualified, hkind, hbases, hregistered⟩

namespace Inferred

/-- A type for which no facts are given has the symbol that is inferred from the names. -/
theorem symbol_eq (h : Inferred style manifest assembly type project known)
    (hfree : ∀ facts, (type.qualifiedName, facts) ∉ project.symbols.entries) {symbol : Symbol}
    (hsymbol : (Index.ofProjects style manifest.toProjects).registry.symbol? assembly.name
      type.qualifiedName = some symbol) :
    symbol = ⟨type.qualifiedName, project.names.parentName known,
      project.names.interfacesAbove type.qualifiedName known⟩ := by
  obtain ⟨model, hmodel, hanswer⟩ := Option.bind_eq_some_iff.1 hsymbol
  rw [h.model_eq model hmodel, DeclaredNames.symbol?, ProjectEntry.facts?_eq_none hfree,
    h.known_eq] at hanswer
  exact (Option.some.inj hanswer).symm

/-- A type that a model is entered for has a symbol. -/
theorem exists_symbol (h : Inferred style manifest assembly type project known)
    (hregistered : (Index.ofProjects style manifest.toProjects).registry.contains assembly.name
      type.qualifiedName = true) :
    ∃ symbol, (Index.ofProjects style manifest.toProjects).registry.symbol? assembly.name
      type.qualifiedName = some symbol := by
  rw [SymbolRegistry.contains_eq_isSome] at hregistered
  obtain ⟨model, hmodel⟩ := Option.isSome_iff_exists.1 hregistered
  rw [SymbolRegistry.symbol?_of_model? hmodel, h.model_eq model hmodel, DeclaredNames.symbol?,
    h.known_eq]
  cases project.names.facts? type.qualifiedName with
  | some facts => exact ⟨_, rfl⟩
  | none => exact ⟨_, rfl⟩

end Inferred

end

end Manifest

end ClassDiagram
