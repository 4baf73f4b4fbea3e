import ClassDiagram.Diagram
import ClassDiagram.Proofs.ByteOrder
import ClassDiagram.Proofs.Merging
import ClassDiagram.Proofs.StableOrder
import Mathlib.Data.List.Forall2

/-!
# What an index holds

The index of a codebase is built by sorting, skipping and merging in place. This file says
what it holds without any of that: which projects become assemblies, and what the types of an
assembly are in terms of the declarations of its project (`Assembly.DescribedBy`,
`Index.Contents`).

Everything rests on `ofProjects_assemblies`: each assembly is what the merged declarations of
its project describe, connected as the *finished* registry has it. The assemblies after it
cannot disturb it, for they enter types under other names of assemblies.
-/

namespace ClassDiagram

/-! ## Finding things by name -/

theorem find?_eq_some_of_nodup {α : Type} {name : α → String} {things : List α} {a : α}
    (hnodup : (things.map name).Nodup) (h : a ∈ things) :
    things.find? (name · == name a) = some a := by
  induction things with
  | nil => exact absurd h List.not_mem_nil
  | cons b rest ih =>
      rw [List.map_cons, List.nodup_cons] at hnodup
      rcases List.mem_cons.1 h with rfl | h
      · rw [List.find?_cons_of_pos (by simp)]
      · have hne : name b ≠ name a := fun he => hnodup.1 (he ▸ List.mem_map_of_mem h)
        rw [List.find?_cons_of_neg (by simpa using hne)]
        exact ih hnodup.2 h

/-- Sorting by name does not change which thing of a name comes first. -/
theorem StablySorted.find?_name {α : Type} {name : α → String} {sorted things : List α}
    (h : StablySorted (byName name) sorted things) (text : String) :
    sorted.find? (name · == text) = things.find? (name · == text) := by
  rw [← List.head?_filter, ← List.head?_filter, h.filter_name]

/-! ## The projects that become assemblies -/

theorem firstOfEachName_sublist (projects : List Project) :
    (firstOfEachName projects).Sublist projects := by
  induction projects with
  | nil => exact List.Sublist.refl _
  | cons project rest ih => exact (List.filter_sublist.trans ih).cons_cons project

theorem nodup_firstOfEachName (projects : List Project) :
    ((firstOfEachName projects).map Project.name).Nodup := by
  induction projects with
  | nil => exact List.nodup_nil
  | cons project rest ih =>
      rw [firstOfEachName, List.map_cons, List.nodup_cons]
      refine ⟨fun h => ?_, (List.filter_sublist.map Project.name).nodup ih⟩
      obtain ⟨other, hother, hname⟩ := List.mem_map.1 h
      have hne := (List.mem_filter.1 hother).2
      exact absurd hname (by simpa using hne)

theorem find?_firstOfEachName (projects : List Project) (name : String) :
    (firstOfEachName projects).find? (·.name == name) = projects.find? (·.name == name) := by
  induction projects with
  | nil => rfl
  | cons project rest ih =>
      rw [firstOfEachName]
      by_cases h : project.name = name
      · rw [List.find?_cons_of_pos (by simpa using h), List.find?_cons_of_pos (by simpa using h)]
      · rw [List.find?_cons_of_neg (by simpa using h), List.find?_cons_of_neg (by simpa using h),
          List.find?_filter, ← ih]
        -- whatever has the name looked for is not dropped
        congr 1
        funext other
        by_cases ho : other.name = name
        · simp [ho, Ne.symm h]
        · simp [ho]

theorem mem_firstOfEachName {projects : List Project} {project : Project} :
    project ∈ firstOfEachName projects
      ↔ projects.find? (·.name == project.name) = some project := by
  rw [← find?_firstOfEachName]
  exact ⟨find?_eq_some_of_nodup (nodup_firstOfEachName projects), List.mem_of_find?_eq_some⟩

theorem nodup_indexedProjects (projects : List Project) :
    ((indexedProjects projects).map Project.name).Nodup :=
  nodup_firstOfEachName _

/-- A project becomes an assembly if it has a name and is the first of that name. -/
theorem mem_indexedProjects {projects : List Project} {project : Project} :
    project ∈ indexedProjects projects
      ↔ project.name ≠ "" ∧ projects.find? (·.name == project.name) = some project := by
  rw [indexedProjects, mem_firstOfEachName, List.find?_filter,
    ← (stablySorted_sortedByName Project.name projects).find?_name]
  by_cases h : project.name = ""
  · refine ⟨fun hfind => ?_, fun hfind => absurd h hfind.1⟩
    have := List.find?_some hfind
    simp [h] at this
  · have hpred : (fun other : Project => decide (decide (other.name ≠ "") = true
        ∧ (other.name == project.name) = true)) = (·.name == project.name) := by
      funext other
      by_cases ho : other.name = project.name
      · simp [ho, h]
      · simp [ho]
    rw [hpred]
    exact ⟨fun hfind => ⟨h, hfind⟩, fun hfind => hfind.2⟩

theorem indexedProjects_ascending (projects : List Project) :
    (indexedProjects projects).Pairwise fun a b => byName Project.name a b = .lt := by
  have hsub : (indexedProjects projects).Sublist (Text.sortedByName Project.name projects) :=
    (firstOfEachName_sublist _).trans List.filter_sublist
  have hle := (stablySorted_sortedByName Project.name projects).ascending.sublist hsub
  have hne := List.pairwise_map.1 (nodup_indexedProjects projects)
  refine pairwise_lt_of_ascending hle (hne.imp fun {a b} hab heq => ?_)
  rw [byName_eq] at heq
  exact hab (Std.LawfulEqOrd.eq_of_compare heq)

/-! ## One assembly -/

namespace Project

/-- What the documents of the project contribute, in the order in which it is taken in. -/
def contributions (project : Project) : List Contribution :=
  (Text.sortedByName Document.name project.documents).flatMap Document.contributions

/-- The assembly that the declarations of the project describe, as a registry connects it. -/
def assembly (style : DiagramStyle) (registry : SymbolRegistry) (project : Project) :
    Assembly where
  name := project.name
  types := (describedTypes style registry project.name
    (project.contributions.map (·.occurrence))).map IndexedType.withSortedMembers

end Project

namespace AssemblyDraft

/-- Taking in the documents of one assembly enters nothing for another. -/
theorem model?_foldl_add_of_ne {style : DiagramStyle} {assembly assembly' : String}
    (h : assembly ≠ assembly') (contributions : List Contribution) (draft : AssemblyDraft)
    (type : String) :
    (contributions.foldl (add style assembly) draft).registry.model? assembly' type
      = draft.registry.model? assembly' type := by
  induction contributions generalizing draft with
  | nil => rfl
  | cons contribution rest ih =>
      rw [List.foldl_cons, ih]
      exact model?_add_of_ne fun he => h he.1

end AssemblyDraft

namespace Index

variable {style : DiagramStyle}

theorem registry_addProject (index : Index) (project : Project) :
    (index.addProject style project).registry
      = (project.contributions.foldl (AssemblyDraft.add style project.name)
          { registry := index.registry, skipped := index.skipped }).registry := by
  rw [addProject, AssemblyDraft.foldl_addDocument]
  rfl

theorem assemblies_addProject (index : Index) (project : Project) :
    (index.addProject style project).assemblies
      = index.assemblies
        ++ [project.assembly style (index.addProject style project).registry] := by
  rw [registry_addProject, Project.assembly, ← AssemblyDraft.types_foldl_add, addProject,
    AssemblyDraft.foldl_addDocument]
  rfl

theorem skipped_addProject (index : Index) (project : Project) :
    (index.addProject style project).skipped
      = index.skipped + project.documents.countP fun document => !document.isComplete := by
  rw [addProject, AssemblyDraft.foldl_addDocument]
  exact congrArg (index.skipped + ·)
    ((stablySorted_sortedByName Document.name project.documents).perm.countP_eq _)

/-- Taking in a project enters nothing for other assemblies. -/
theorem model?_addProject_of_ne {index : Index} {project : Project} {assembly : String}
    (h : project.name ≠ assembly) (type : String) :
    (index.addProject style project).registry.model? assembly type
      = index.registry.model? assembly type := by
  rw [registry_addProject]
  exact AssemblyDraft.model?_foldl_add_of_ne h _ _ type

end Index

/-- An assembly depends on the registry only through the symbols of its own types. -/
theorem Project.assembly_congr {style : DiagramStyle} {registry registry' : SymbolRegistry}
    {project : Project}
    (h : ∀ type, registry.symbol? project.name type = registry'.symbol? project.name type) :
    project.assembly style registry = project.assembly style registry' := by
  have hconnect : IndexedType.connect style registry project.name
      = IndexedType.connect style registry' project.name := by
    funext type
    rw [IndexedType.connect, IndexedType.connect,
      Connections.ofType_congr (h type.qualifiedName)]
  rw [assembly, assembly, describedTypes, describedTypes, hconnect]

/-! ## All assemblies -/

namespace Index

variable {style : DiagramStyle}

theorem foldl_addProject_assemblies (projects : List Project)
    (hnodup : (projects.map Project.name).Nodup) :
    (projects.foldl (addProject style) {}).assemblies
      = projects.map (Project.assembly style (projects.foldl (addProject style) {}).registry) := by
  induction projects using List.reverseRecOn with
  | nil => rfl
  | append_singleton projects last ih =>
      rw [List.map_append, List.nodup_append] at hnodup
      rw [List.foldl_append, List.foldl_cons, List.foldl_nil, List.map_append,
        List.map_singleton, assemblies_addProject, ih hnodup.1]
      refine congrArg (· ++ _) (List.map_congr_left fun project hproject => ?_)
      -- the last project has another name, so it leaves this assembly's symbols alone
      refine (Project.assembly_congr fun type =>
        SymbolRegistry.symbol?_congr (model?_addProject_of_ne (fun he => ?_) type)).symm
      exact hnodup.2.2 project.name (List.mem_map_of_mem hproject) last.name (by simp) he.symm

/-- **Every assembly of a finished index is what its project's declarations describe**, with
the connections that the finished registry gives. -/
theorem ofProjects_assemblies (projects : List Project) :
    (ofProjects style projects).assemblies
      = (indexedProjects projects).map
          (Project.assembly style (ofProjects style projects).registry) :=
  foldl_addProject_assemblies _ (nodup_indexedProjects projects)

theorem foldl_addProject_skipped (projects : List Project) (index : Index) :
    (projects.foldl (addProject style) index).skipped
      = index.skipped + (projects.flatMap (·.documents)).countP fun document =>
          !document.isComplete := by
  induction projects generalizing index with
  | nil => rfl
  | cons project rest ih =>
      rw [List.foldl_cons, ih, skipped_addProject, List.flatMap_cons, List.countP_append,
        Nat.add_assoc]

end Index

/-! ## The types of an assembly in terms of its declarations -/

/-- The declarations of a document, nested ones included, if it is complete. -/
def Document.declared (document : Document) : List Occurrence :=
  if document.isComplete then document.occurrences?.getD [] else []

/-- What the types of an assembly have to do with the declarations that it takes in, in the
order in which it takes them in. -/
structure DescribedBy (declared : List Occurrence) (types : List IndexedType) : Prop where
  /-- There is one type for each name, in the order in which the names come first. -/
  names : types.map (·.qualifiedName) = (declared.map (·.qualifiedName)).eraseDups
  /-- The first declaration of a name decides what the type is. -/
  first : ∀ type ∈ types, ∃ first : Occurrence,
    declared.find? (·.qualifiedName == type.qualifiedName) = some first
      ∧ type.kind = .ofDeclared first.declaration.keyword first.declaration.modifiers
      ∧ type.identifier = first.declaration.identifier
      ∧ type.scope = first.scope
  /-- The bases are those of all declarations, without later repeats. -/
  bases : ∀ type ∈ types, type.declaredBases
    = ((declared.filter (·.qualifiedName == type.qualifiedName)).flatMap
        (·.declaration.bases)).eraseDups
  /-- The members are those of all declarations that can be shown, sorted. -/
  members : ∀ type ∈ types, StablySorted Member.order type.members
    ((declared.filter (·.qualifiedName == type.qualifiedName)).flatMap
        (·.declaration.members.filterMap Member.ofDeclared?))

theorem Document.map_contributions (document : Document) :
    document.contributions.map (·.occurrence) = document.declared := by
  unfold contributions declared isComplete occurrences?
  cases document.model with
  | none => rfl
  | some model =>
      cases document.tree.bind (·.root) with
      | none => rfl
      | some declarations =>
          show ((Occurrence.all declarations).map (Contribution.mk model)).map _ = _
          rw [List.map_map]
          exact List.map_id _

theorem Project.map_contributions (project : Project) :
    project.contributions.map (·.occurrence)
      = (Text.sortedByName Document.name project.documents).flatMap Document.declared := by
  rw [contributions, List.map_flatMap]
  exact congrArg (List.flatMap · _) (funext Document.map_contributions)

theorem map_qualifiedName_describedTypes {style : DiagramStyle} {registry : SymbolRegistry}
    {assembly : String} (occurrences : List Occurrence) :
    (describedTypes style registry assembly occurrences).map (·.qualifiedName)
      = declaredNames occurrences := by
  rw [describedTypes, List.map_filterMap]
  refine (List.filterMap_congr fun name hname => ?_).trans List.filterMap_some
  cases hdescribed : describe? occurrences name with
  | none => exact absurd hname (describe?_eq_none_iff.1 hdescribed)
  | some described =>
      exact congrArg some ((IndexedType.qualifiedName_connect described).trans
        (qualifiedName_of_describe? hdescribed))

theorem qualifiedNames_assembly {style : DiagramStyle} {registry : SymbolRegistry}
    (project : Project) :
    (project.assembly style registry).types.map (·.qualifiedName)
      = declaredNames (project.contributions.map (·.occurrence)) := by
  rw [Project.assembly, List.map_map, ← map_qualifiedName_describedTypes]
  rfl

/-- The types of an assembly are the described ones, with their members sorted. -/
theorem mem_assembly_types {style : DiagramStyle} {registry : SymbolRegistry}
    {project : Project} {type : IndexedType}
    (h : type ∈ (project.assembly style registry).types) :
    ∃ described, describe? (project.contributions.map (·.occurrence)) type.qualifiedName
        = some described
      ∧ type = (described.connect style registry project.name).withSortedMembers := by
  obtain ⟨connected, hconnected, rfl⟩ := List.mem_map.1 h
  obtain ⟨described, hdescribed, rfl⟩ := mem_describedTypes.1 hconnected
  exact ⟨described, hdescribed, rfl⟩

theorem describedBy_assembly {style : DiagramStyle} {registry : SymbolRegistry}
    (project : Project) :
    DescribedBy (project.contributions.map (·.occurrence))
      (project.assembly style registry).types where
  names := by
    rw [qualifiedNames_assembly, declaredNames, Name.distinct_eq_eraseDups]
  first := by
    intro type htype
    obtain ⟨described, hdescribed, heq⟩ := mem_assembly_types htype
    obtain ⟨first, hfirst, hof⟩ := Option.map_eq_some_iff.1 hdescribed
    rw [List.head?_filter] at hfirst
    refine ⟨first, hfirst, ?_⟩
    rw [heq, ← hof]
    exact ⟨rfl, rfl, rfl⟩
  bases := by
    intro type htype
    obtain ⟨described, hdescribed, heq⟩ := mem_assembly_types htype
    have hbases : type.declaredBases = described.declaredBases := by rw [heq]; rfl
    rw [hbases, ← Name.distinct_eq_eraseDups]
    exact declaredBases_of_describe? hdescribed
  members := by
    intro type htype
    obtain ⟨described, hdescribed, heq⟩ := mem_assembly_types htype
    have hmembers : type.members = Member.sorted described.members := by rw [heq]; rfl
    rw [hmembers, ← members_of_describe? hdescribed]
    exact stablySorted_sorted described.members

/-! ## The whole index -/

/-- What an index has to do with the projects of a codebase, of which some are accepted. -/
structure Index.Contents (projects accepted : List Project) (index : Index) : Prop where
  /-- The first project of each name is accepted, unless the name is empty. -/
  accepted_iff : ∀ project, project ∈ accepted
    ↔ project.name ≠ "" ∧ projects.find? (·.name == project.name) = some project
  /-- The names of the accepted projects ascend strictly. -/
  ascending : accepted.Pairwise fun a b => byName Project.name a b = .lt
  /-- There is one assembly for each accepted project. It takes in the declarations of the
  complete documents, which are sorted by name. -/
  assemblies : List.Forall₂
    (fun project assembly => assembly.name = project.name
      ∧ ∃ documents, StablySorted (byName Document.name) documents project.documents
        ∧ DescribedBy (documents.flatMap Document.declared) assembly.types)
    accepted index.assemblies
  /-- The documents left out are those of accepted projects that are not complete. -/
  skipped : index.skipped
    = (accepted.flatMap (·.documents)).countP fun document => !document.isComplete

namespace Index

variable {style : DiagramStyle}

theorem contents_ofProjects (projects : List Project) :
    Contents projects (indexedProjects projects) (ofProjects style projects) where
  accepted_iff _ := mem_indexedProjects
  ascending := indexedProjects_ascending projects
  assemblies := by
    rw [ofProjects_assemblies, List.forall₂_map_right_iff, List.forall₂_same]
    intro project _
    refine ⟨rfl, _, stablySorted_sortedByName Document.name project.documents, ?_⟩
    rw [← Project.map_contributions]
    exact describedBy_assembly project
  skipped := by
    rw [ofProjects, foldl_addProject_skipped, Nat.zero_add]

theorem indexedProjects_singleton {project : Project} (hname : project.name ≠ "") :
    indexedProjects [project] = [project] := by
  simp [indexedProjects, Text.sortedByName, firstOfEachName, hname]

/-- The only assembly of a codebase of one document. -/
theorem assemblies_of_document {project : Project} {document : Document}
    (hname : project.name ≠ "") (hdocuments : project.documents = [document]) :
    (ofProjects style [project]).assemblies
      = [⟨project.name, (AssemblyDraft.addDocument style project.name
          { registry := {}, skipped := 0 } document).types.map IndexedType.withSortedMembers⟩] := by
  rw [ofProjects, indexedProjects_singleton hname, List.foldl_cons, List.foldl_nil, addProject,
    hdocuments, Text.sortedByName, List.mergeSort_singleton]
  rfl

/-- An assembly is found by its name. -/
theorem assembly?_of_mem {projects : List Project} {assembly : Assembly}
    (h : assembly ∈ (ofProjects style projects).assemblies) :
    (ofProjects style projects).assembly? assembly.name = some assembly := by
  have hnodup : ((ofProjects style projects).assemblies.map (·.name)).Nodup := by
    rw [ofProjects_assemblies, List.map_map]
    exact nodup_indexedProjects projects
  exact find?_eq_some_of_nodup hnodup h

/-- No two types of an assembly have the same qualified name. -/
theorem nodup_qualifiedNames {projects : List Project} {assembly : Assembly}
    (h : assembly ∈ (ofProjects style projects).assemblies) :
    (assembly.types.map (·.qualifiedName)).Nodup := by
  rw [ofProjects_assemblies] at h
  obtain ⟨project, _, rfl⟩ := List.mem_map.1 h
  rw [qualifiedNames_assembly]
  exact Name.nodup_distinct _

/-- An index comes from projects. -/
theorem exists_projects_of_ofProvider {provider : Provider} {index : Index}
    (h : ofProvider style provider = .ok index) :
    ∃ projects, ofProjects style projects = index := by
  unfold ofProvider at h
  cases hprojects : provider.projects with
  | ok projects =>
      rw [hprojects] at h
      exact ⟨projects, Except.ok.inj h⟩
  | error failure =>
      rw [hprojects] at h
      exact absurd h (by simp [Except.map])

/-- A provider that gives its projects leads to an index of their contents, and one that gives
none leads to its failure. -/
theorem ofProvider_contents (style : DiagramStyle) (provider : Provider) :
    match provider.projects with
    | .ok projects => ∃ index accepted,
        ofProvider style provider = .ok index ∧ Contents projects accepted index
    | .error failure => ofProvider style provider = .error failure := by
  unfold ofProvider
  cases provider.projects with
  | ok projects => exact ⟨_, _, rfl, contents_ofProjects projects⟩
  | error failure => rfl

/-! ## References -/

theorem refs_of_mem {projects : List Project} {assembly : Assembly} {type : IndexedType}
    (hassembly : assembly ∈ (ofProjects style projects).assemblies)
    (htype : type ∈ assembly.types) :
    Connections.mk type.baseRef type.interfaceRefs
      = .ofType style (ofProjects style projects).registry assembly.name type := by
  rw [ofProjects_assemblies] at hassembly
  obtain ⟨project, _, rfl⟩ := List.mem_map.1 hassembly
  obtain ⟨described, _, rfl⟩ := mem_assembly_types htype
  rfl

/-- **References never go stale.** Those of an indexed type were written down while the index
was being built; they are the connections that the finished registry gives the finished type.
So the lines that its diagram draws to other types are those of its references. -/
theorem refs_eq_connections {provider : Provider} {index : Index} {assembly : Assembly}
    {type : IndexedType} (hindex : ofProvider style provider = .ok index)
    (hassembly : assembly ∈ index.assemblies) (htype : type ∈ assembly.types) :
    Connections.mk type.baseRef type.interfaceRefs
        = .ofType style index.registry assembly.name type
      ∧ index.diagramOf style assembly.name type
        = String.join
            ((["@startuml", ""]
              ++ Drawing.connectionLines (style.labels.label assembly.name type)
                  ⟨type.baseRef, type.interfaceRefs⟩
              ++ ["", type.kind.introduction ++ " " ++ style.labels.label assembly.name type
                  ++ " \x7b"]
              ++ Drawing.rowLines type.rows
              ++ ["\x7d", "", "@enduml"]).map (· ++ "\n")) := by
  obtain ⟨projects, rfl⟩ := exists_projects_of_ofProvider hindex
  have hrefs := refs_of_mem hassembly htype
  refine ⟨hrefs, ?_⟩
  rw [hrefs]
  rfl

/-- A class in two parts. The part that comes first has the bases but no members, so that the
registry learns of the type only with the second one. -/
def dogInTwoParts : Project where
  name := "Zoo"
  documents :=
    [{ name := "Dog.Bases.cs"
       model := some fun _ => none
       tree := some
         { root := some
             [{ keyword := .forClass, identifier := "Dog", bases := ["Animal<T>", "IPet"] }] } },
     { name := "Dog.Name.cs"
       model := some fun name => some ⟨name, some "Animal<T>", ["IPet"]⟩
       tree := some
         { root := some
             [{ keyword := .forClass, identifier := "Dog",
                members := [.property [] "Name" "string"] }] } }]

/-- The type that the two parts make. -/
def dog : IndexedType where
  qualifiedName := "Dog"
  identifier := "Dog"
  kind := .plainClass
  declaredBases := ["Animal<T>", "IPet"]
  baseRef := some "Animal"
  interfaceRefs := ["IPet"]
  members := [.property "Name" "string"]

theorem assemblies_dogInTwoParts :
    (ofProjects {} [dogInTwoParts]).assemblies = [⟨"Zoo", [dog]⟩] := by
  have hprojects : indexedProjects [dogInTwoParts] = [dogInTwoParts] := by
    simp [indexedProjects, Text.sortedByName, firstOfEachName, dogInTwoParts]
  have hdocuments : Text.sortedByName Document.name dogInTwoParts.documents
      = dogInTwoParts.documents := List.mergeSort_of_pairwise (by decide)
  have htypes : (dogInTwoParts.documents.foldl (AssemblyDraft.addDocument {} "Zoo")
      { registry := {}, skipped := 0 }).types = [dog] := by decide
  rw [ofProjects, hprojects, List.foldl_cons, addProject, hdocuments]
  show [Assembly.mk "Zoo" ((dogInTwoParts.documents.foldl (AssemblyDraft.addDocument {} "Zoo")
    { registry := {}, skipped := 0 }).types.map IndexedType.withSortedMembers)] = _
  rw [htypes, List.map_singleton, IndexedType.withSortedMembers, Member.sorted]
  simp [dog]

theorem refs_eq_connections_dog :
    ofProvider {} (.ofProjects [dogInTwoParts]) = .ok (ofProjects {} [dogInTwoParts])
      ∧ ⟨"Zoo", [dog]⟩ ∈ (ofProjects {} [dogInTwoParts]).assemblies
      ∧ dog ∈ [dog]
      ∧ Connections.mk (some "Animal") ["IPet"]
        = .ofType {} (ofProjects {} [dogInTwoParts]).registry "Zoo" dog
      ∧ (ofProjects {} [dogInTwoParts]).diagramOf {} "Zoo" dog
        = "@startuml\n\nDog --|> Animal\ninterface IPet\nDog ..|> IPet\n\nclass Dog \x7b\n"
          ++ "    \x7bfield\x7d +Name : string\n\x7d\n\n@enduml\n" := by
  have hindex : ofProvider {} (.ofProjects [dogInTwoParts])
      = .ok (ofProjects {} [dogInTwoParts]) := rfl
  have hassembly : Assembly.mk "Zoo" [dog] ∈ (ofProjects {} [dogInTwoParts]).assemblies := by
    rw [assemblies_dogInTwoParts]
    exact List.mem_singleton_self _
  have htype : dog ∈ [dog] := List.mem_singleton_self dog
  have hrefs := refs_eq_connections hindex hassembly htype
  refine ⟨hindex, hassembly, htype, hrefs.1, hrefs.2.trans ?_⟩
  have hrows : dog.rows = { properties := [⟨"Name", "string"⟩] } := by
    simp [IndexedType.rows, Member.sorted, dog, Member.fieldRow?, Member.propertyRow?,
      Member.methodRow?]
  rw [hrows]
  decide

end Index

end ClassDiagram
