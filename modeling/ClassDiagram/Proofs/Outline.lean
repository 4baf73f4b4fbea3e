import ClassDiagram.Proofs.Rearranging
import ClassDiagram.Proofs.Registrations

/-!
# What an index holds without asking any model

A model is asked for one thing only, the names that a type is connected to. All the rest of an
index is read off the declarations of the codebase: which types there are, what they are, what
they declare, which of them have a model, and how many documents were left out. This rest is the
`Index.outline`.

`Index.outline_ofProjects` writes the outline down as it follows from the projects, without any
style and without any model. So a codebase may be changed in all that its documents do not
declare, and the outline is the same (`Index.outline_mapDocuments`).
-/

namespace ClassDiagram

/-! ## Outlines -/

/-- The type without the names that its diagram connects it to. -/
def IndexedType.unconnected (type : IndexedType) : IndexedType :=
  type.withConnections {}

/-- The types that a model is entered for, each with its assembly, in the order in which they
were entered. -/
def SymbolRegistry.types (registry : SymbolRegistry) : List (String × String) :=
  registry.registrations.map fun registration => (registration.assembly, registration.type)

/-- All that an index holds apart from connections and models. -/
structure Outline where
  /-- The types of these assemblies are not connected to anything. -/
  assemblies : List Assembly
  /-- The types that have a model. -/
  registered : List (String × String)
  skipped : Nat

/-- The outline of an index. -/
def Index.outline (index : Index) : Outline where
  assemblies := index.assemblies.map fun assembly =>
    { assembly with types := assembly.types.map IndexedType.unconnected }
  registered := index.registry.types
  skipped := index.skipped

/-! ## The types that have a model -/

namespace SymbolRegistry

variable {registry : SymbolRegistry} {assembly type : String}

theorem contains_iff :
    registry.contains assembly type = true ↔ (assembly, type) ∈ registry.types := by
  rw [contains, types, List.any_eq_true, List.mem_map]
  refine exists_congr fun registration => and_congr_right fun _ => ?_
  rw [Registration.isFor, Bool.and_eq_true, beq_iff_eq, beq_iff_eq, Prod.mk.injEq]

theorem types_add_of_mem {model : SymbolModel} (h : (assembly, type) ∈ registry.types) :
    (registry.add assembly type model).types = registry.types := by
  rw [add, if_pos (contains_iff.2 h)]

theorem types_add_of_not_mem {model : SymbolModel} (h : (assembly, type) ∉ registry.types) :
    (registry.add assembly type model).types = registry.types ++ [(assembly, type)] := by
  rw [add, if_neg (fun hc => h (contains_iff.1 hc)), types, List.map_append]
  rfl

end SymbolRegistry

/-- The types that are declared with members, each where it comes first. -/
def namesWithMembers (occurrences : List Occurrence) : List String :=
  Name.distinct ((occurrences.filter fun occurrence => !occurrence.declaration.members.isEmpty).map
    Occurrence.qualifiedName)

/-- An assembly enters the types that have members. -/
theorem SymbolRegistry.types_foldl_enter {assembly : String} (contributions : List Contribution) :
    (contributions.foldl (enter assembly) {}).types
      = (namesWithMembers (contributions.map (·.occurrence))).map (assembly, ·) := by
  -- taken apart at the end, where the last declaration finds all others entered
  induction contributions using List.reverseRecOn with
  | nil => rfl
  | append_singleton contributions last ih =>
      rw [List.foldl_append, List.foldl_cons, List.foldl_nil, List.map_append, List.map_singleton,
        namesWithMembers, List.filter_append, List.map_append, enter]
      cases hmembers : last.occurrence.declaration.members.isEmpty with
      | true =>
          rw [if_pos rfl, ih, List.filter_cons_of_neg (by simp [hmembers])]
          simp [namesWithMembers]
      | false =>
          rw [if_neg Bool.false_ne_true, List.filter_cons_of_pos (by simp [hmembers])]
          show _ = (Name.distinct (_ ++ [last.occurrence.qualifiedName])).map _
          rw [Name.distinct_concat]
          by_cases hknown : last.occurrence.qualifiedName
              ∈ namesWithMembers (contributions.map (·.occurrence))
          · rw [types_add_of_mem, ih, ← namesWithMembers, Name.addNew_of_mem hknown]
            rw [ih]
            exact List.mem_map_of_mem hknown
          · rw [types_add_of_not_mem, ih, ← namesWithMembers, Name.addNew_of_not_mem hknown,
              List.map_append]
            · rfl
            · rw [ih, List.mem_map]
              rintro ⟨name, hname, heq⟩
              exact hknown ((Prod.mk.inj heq).2 ▸ hname)

namespace Project

/-- The declarations that the project is indexed by, in the order in which they are taken in. -/
def declared (project : Project) : List Occurrence :=
  (Text.sortedByName Document.name project.documents).flatMap Document.declared

/-- The types that the declarations of the project describe, connected to nothing. -/
def described (project : Project) : List IndexedType :=
  (declaredNames project.declared).filterMap fun name =>
    (describe? project.declared name).map fun type => type.withSortedMembers.unconnected

/-- The types that have a model are those that the project declares with members. -/
theorem types_registry (project : Project) :
    project.registry.types = (namesWithMembers project.declared).map (project.name, ·) := by
  rw [registry, SymbolRegistry.types_foldl_enter, map_contributions]
  rfl

end Project

namespace Index

variable {style : DiagramStyle}

/-- The types of an assembly are, apart from their connections, those that are declared. -/
theorem map_unconnected_assembly (registry : SymbolRegistry) (project : Project) :
    (project.assembly style registry).types.map IndexedType.unconnected = project.described := by
  have hdeclared : project.contributions.map (·.occurrence) = project.declared :=
    project.map_contributions
  rw [Project.assembly, hdeclared, describedTypes, Project.described, List.map_map,
    List.map_filterMap]
  refine List.filterMap_congr fun name _ => ?_
  rw [Option.map_map]
  rfl

/-- **The outline of an index** follows from what the accepted projects declare. Neither the style
nor any model has a part in it. -/
theorem outline_ofProjects (projects : List Project) :
    (ofProjects style projects).outline
      = { assemblies := (indexedProjects projects).map fun project =>
            ⟨project.name, project.described⟩
          registered := (indexedProjects projects).flatMap fun project =>
            (namesWithMembers project.declared).map (project.name, ·)
          skipped := ((indexedProjects projects).flatMap (·.documents)).countP fun document =>
            !document.isComplete } := by
  have hassemblies : (ofProjects style projects).outline.assemblies
      = (indexedProjects projects).map fun project => ⟨project.name, project.described⟩ := by
    show (ofProjects style projects).assemblies.map _ = _
    rw [ofProjects_assemblies, List.map_map]
    refine List.map_congr_left fun project _ => ?_
    rw [Function.comp_apply, map_unconnected_assembly]
    rfl
  have hregistered : (ofProjects style projects).outline.registered
      = (indexedProjects projects).flatMap fun project =>
          (namesWithMembers project.declared).map (project.name, ·) := by
    show (ofProjects style projects).registry.registrations.map _ = _
    rw [registrations_ofProjects, List.map_flatMap]
    exact congrArg (List.flatMap · _) (funext Project.types_registry)
  have hskipped : (ofProjects style projects).outline.skipped
      = ((indexedProjects projects).flatMap (·.documents)).countP fun document =>
          !document.isComplete :=
    (contents_ofProjects projects).skipped
  rw [← hassemblies, ← hregistered, ← hskipped]

end Index

/-! ## Documents that are changed -/

namespace Document

/-- The document without its tree, unless it has a model. -/
def visible (document : Document) : Document :=
  if document.model.isSome then document else { document with tree := none }

/-- The document with a model that knows nothing in place of its own, if it has one. -/
def blinded (document : Document) : Document :=
  { document with model := document.model.map fun _ _ => none }

theorem visible_cases (document : Document) :
    document.visible = document
      ∨ document.model = none ∧ document.visible = { document with tree := none } := by
  unfold visible
  cases hmodel : document.model with
  | some model => exact .inl rfl
  | none => exact .inr ⟨rfl, rfl⟩

theorem name_visible (document : Document) : document.visible.name = document.name := by
  rcases document.visible_cases with heq | ⟨_, heq⟩
  · rw [heq]
  · rw [heq]

/-- Nobody looks at the tree of a document without a model. -/
theorem contributions_visible (document : Document) :
    document.visible.contributions = document.contributions := by
  rcases document.visible_cases with heq | ⟨hmodel, heq⟩
  · rw [heq]
  · simp [heq, contributions, hmodel]

theorem isComplete_visible (document : Document) :
    document.visible.isComplete = document.isComplete := by
  rcases document.visible_cases with heq | ⟨hmodel, heq⟩
  · rw [heq]
  · simp [heq, isComplete, hmodel]

theorem isComplete_blinded (document : Document) :
    document.blinded.isComplete = document.isComplete := by
  unfold isComplete blinded
  rw [Option.isSome_map]

/-- What a document declares does not depend on what its model answers. -/
theorem declared_blinded (document : Document) : document.blinded.declared = document.declared := by
  unfold declared
  rw [isComplete_blinded]
  rfl

end Document

/-- The project with all its documents changed. -/
def Project.mapDocuments (f : Document → Document) (project : Project) : Project :=
  { project with documents := project.documents.map f }

namespace Index

variable {style : DiagramStyle} {f : Document → Document}

/-- An index is the same if the changed documents contribute the same. -/
theorem ofProjects_mapDocuments (hname : ∀ document, (f document).name = document.name)
    (hcontributions : ∀ document, (f document).contributions = document.contributions)
    (hcomplete : ∀ document, (f document).isComplete = document.isComplete)
    (projects : List Project) :
    ofProjects style (projects.map (Project.mapDocuments f)) = ofProjects style projects := by
  have hdocument : ∀ assembly draft document,
      AssemblyDraft.addDocument style assembly draft (f document)
        = AssemblyDraft.addDocument style assembly draft document := by
    intro assembly draft document
    rw [AssemblyDraft.addDocument_eq, AssemblyDraft.addDocument_eq, hcontributions, hcomplete]
  refine ofProjects_map (f := Project.mapDocuments f) (fun _ => rfl) (fun index project => ?_) _
  unfold addProject Project.mapDocuments
  dsimp only
  rw [Text.sortedByName_map hname, List.foldl_map]
  have hstep : (fun draft document =>
        AssemblyDraft.addDocument style project.name draft (f document))
      = AssemblyDraft.addDocument style project.name :=
    funext fun draft => funext fun document => hdocument project.name draft document
  rw [hstep]

/-- The outline of an index is the same if the changed documents declare the same. -/
theorem outline_mapDocuments (hname : ∀ document, (f document).name = document.name)
    (hdeclared : ∀ document, (f document).declared = document.declared)
    (hcomplete : ∀ document, (f document).isComplete = document.isComplete)
    (projects : List Project) :
    (ofProjects style (projects.map (Project.mapDocuments f))).outline
      = (ofProjects style projects).outline := by
  have hproject : ∀ project, (Project.mapDocuments f project).declared = project.declared := by
    intro project
    show (Text.sortedByName Document.name (project.documents.map f)).flatMap _ = _
    rw [Text.sortedByName_map hname, List.flatMap_map]
    exact congrArg (List.flatMap · _) (funext hdeclared)
  have hdescribed : ∀ project, (Project.mapDocuments f project).described = project.described := by
    intro project
    rw [Project.described, hproject, Project.described]
  have hskipped : ∀ project : Project,
      (Project.mapDocuments f project).documents.countP (fun document => !document.isComplete)
        = project.documents.countP fun document => !document.isComplete := by
    intro project
    show (project.documents.map f).countP _ = _
    rw [List.countP_map]
    refine List.countP_congr fun document _ => ?_
    rw [Function.comp_apply, hcomplete]
  rw [outline_ofProjects, outline_ofProjects,
    indexedProjects_map (f := Project.mapDocuments f) fun _ => rfl]
  simp only [List.map_map, List.flatMap_map, List.countP_flatMap, Function.comp_def, hproject,
    hdescribed, hskipped]
  rfl

theorem ofProjects_visible (projects : List Project) :
    ofProjects style (projects.map (Project.mapDocuments Document.visible))
      = ofProjects style projects :=
  ofProjects_mapDocuments Document.name_visible Document.contributions_visible
    Document.isComplete_visible projects

theorem outline_blinded (projects : List Project) :
    (ofProjects style (projects.map (Project.mapDocuments Document.blinded))).outline
      = (ofProjects style projects).outline :=
  outline_mapDocuments (f := Document.blinded) (fun _ => rfl) Document.declared_blinded
    Document.isComplete_blinded projects

end Index

end ClassDiagram
