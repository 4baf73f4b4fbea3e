import ClassDiagram.Proofs.Outline
import Mathlib.Data.List.Nodup

/-!
# The types that have a model

A model is entered for a type as a side effect of taking in one of its declarations, if this
declaration has members of any kind. This file says what the finished registry comes to
(`Index.ofProvider_registers`): for which types it has a model, that these are types of the
index, whose model it is, and how many there are.

The first document in which a type is declared with members decides. It need not be the first
one that declares the type, for declarations without members are passed over
(`Project.model?_of_introduces`).
-/

namespace ClassDiagram

/-! ## Documents that introduce a type -/

/-- The document is not left out, and it declares the type with members. Those that no diagram
shows, such as constructors, count as well. -/
def Document.Introduces (document : Document) (type : String) : Prop :=
  ∃ occurrence ∈ document.declared,
    occurrence.qualifiedName = type ∧ occurrence.declaration.members ≠ []

theorem mem_namesWithMembers {occurrences : List Occurrence} {type : String} :
    type ∈ namesWithMembers occurrences
      ↔ ∃ occurrence ∈ occurrences,
          occurrence.qualifiedName = type ∧ occurrence.declaration.members ≠ [] := by
  rw [namesWithMembers, Name.mem_distinct, List.mem_map]
  refine exists_congr fun occurrence => ?_
  rw [List.mem_filter, and_assoc, Bool.not_eq_true', List.isEmpty_eq_false_iff,
    and_comm (a := _ ≠ [])]

namespace Document

variable {document : Document} {type : String}

/-- What a document contributes goes with its own model. -/
theorem model_of_mem_contributions {contribution : Contribution}
    (h : contribution ∈ document.contributions) : document.model = some contribution.model := by
  unfold contributions at h
  split at h
  next model occurrences hmodel _ =>
    obtain ⟨occurrence, _, rfl⟩ := List.mem_map.1 h
    exact hmodel
  next => exact absurd h List.not_mem_nil

theorem exists_registers_iff :
    (∃ contribution ∈ document.contributions, contribution.registers type = true)
      ↔ document.Introduces type := by
  rw [Introduces, ← map_contributions]
  simp [Contribution.registers, and_comm]

/-- A document that introduces the type enters its own model for it. -/
theorem find?_registers_of_introduces (h : document.Introduces type) :
    ∃ model, document.model = some model
      ∧ (document.contributions.find? (·.registers type)).map (·.model) = some model := by
  obtain ⟨contribution, hfound⟩ := Option.isSome_iff_exists.1
    (List.find?_isSome.2 (exists_registers_iff.2 h))
  refine ⟨contribution.model, model_of_mem_contributions (List.mem_of_find?_eq_some hfound), ?_⟩
  rw [hfound]
  rfl

theorem find?_registers_of_not_introduces (h : ¬ document.Introduces type) :
    document.contributions.find? (·.registers type) = none :=
  List.find?_eq_none.2 fun contribution hmem hregisters =>
    h (exists_registers_iff.1 ⟨contribution, hmem, hregisters⟩)

end Document

namespace Project

variable {project : Project} {type : String}

theorem mem_namesWithMembers_declared :
    type ∈ namesWithMembers project.declared
      ↔ ∃ document ∈ project.documents, document.Introduces type := by
  have hperm := (stablySorted_sortedByName Document.name project.documents).perm
  simp only [mem_namesWithMembers, declared, List.mem_flatMap, hperm.mem_iff,
    Document.Introduces]
  grind

/-- **The first document that introduces a type enters its model**, whatever the documents in front
of it declare without members. -/
theorem model?_of_introduces {front back : List Document} {document : Document}
    (hdocuments : Text.sortedByName Document.name project.documents = front ++ document :: back)
    (hintroduces : document.Introduces type)
    (hfirst : ∀ other ∈ front, ¬ other.Introduces type) :
    ∃ model, document.model = some model ∧ project.model? type = some model := by
  obtain ⟨model, hmodel, hfound⟩ := document.find?_registers_of_introduces hintroduces
  have hfront : (front.flatMap Document.contributions).find? (·.registers type) = none := by
    refine List.find?_eq_none.2 fun contribution hmem => ?_
    obtain ⟨other, hother, hmem⟩ := List.mem_flatMap.1 hmem
    exact List.find?_eq_none.1 (Document.find?_registers_of_not_introduces (hfirst other hother))
      contribution hmem
  refine ⟨model, hmodel, ?_⟩
  obtain ⟨contribution, hcontribution, rfl⟩ := Option.map_eq_some_iff.1 hfound
  rw [model?, contributions, hdocuments, List.flatMap_append, List.flatMap_cons, List.find?_append,
    hfront, Option.none_or, List.find?_append, hcontribution]
  rfl

/-- The first part of the class has its bases but no members, so the model of the second part
answers. -/
example : (Index.dogInTwoParts.model? "Dog").bind (fun model => model "Dog")
    = some ⟨"Dog", some "Animal<T>", ["IPet"]⟩ := by cbv

/-- Types that are declared with members are declared. -/
theorem exists_type_of_mem_namesWithMembers {style : DiagramStyle} {registry : SymbolRegistry}
    (h : type ∈ namesWithMembers project.declared) :
    ∃ indexed ∈ (project.assembly style registry).types, indexed.qualifiedName = type := by
  obtain ⟨occurrence, hmem, hname, _⟩ := mem_namesWithMembers.1 h
  rw [← List.mem_map, qualifiedNames_assembly, map_contributions, declaredNames, Name.mem_distinct]
  exact List.mem_map.2 ⟨occurrence, hmem, hname⟩

end Project

/-! ## The finished registry -/

/-- The project is taken into an index of these projects: it has a name and is the first one of
this name. -/
def Project.IsAccepted (projects : List Project) (project : Project) : Prop :=
  project.name ≠ "" ∧ projects.find? (·.name == project.name) = some project

/-- What the registry of an index has to do with the projects of a codebase. -/
structure Index.Registers (projects : List Project) (index : Index) : Prop where
  /-- A type has a model if a document of its assembly introduces it, and only then. -/
  contains_iff : ∀ assembly type, index.registry.contains assembly type = true
    ↔ ∃ project : Project, project.IsAccepted projects ∧ project.name = assembly
        ∧ ∃ document ∈ project.documents, document.Introduces type
  /-- Whatever has a model is a type of the index. -/
  indexed : ∀ assembly type, index.registry.contains assembly type = true →
    ∃ listed ∈ index.assemblies, listed.name = assembly
      ∧ ∃ indexed ∈ listed.types, indexed.qualifiedName = type
  /-- The model is that of the first document, in the order of their names, that introduces the
  type. -/
  model : ∀ (project : Project) documents, project.IsAccepted projects →
    StablySorted (byName Document.name) documents project.documents →
    ∀ front document back type, documents = front ++ document :: back →
      document.Introduces type → (∀ other ∈ front, ¬ other.Introduces type) →
      ∃ model, document.model = some model
        ∧ index.registry.model? project.name type = some model
  /-- The size of the registry is the number of types that have a model. -/
  size : ∃ types : List (String × String), types.Nodup
    ∧ (∀ assembly type, (assembly, type) ∈ types
        ↔ index.registry.contains assembly type = true)
    ∧ index.registry.size = types.length

namespace Index

variable {style : DiagramStyle} {projects : List Project}

theorem types_registry_ofProjects (projects : List Project) :
    (ofProjects style projects).registry.types
      = (indexedProjects projects).flatMap fun project =>
          (namesWithMembers project.declared).map (project.name, ·) :=
  congrArg Outline.registered (outline_ofProjects projects)

theorem contains_ofProjects_iff {assembly type : String} :
    (ofProjects style projects).registry.contains assembly type = true
      ↔ ∃ project ∈ indexedProjects projects, project.name = assembly
          ∧ type ∈ namesWithMembers project.declared := by
  rw [SymbolRegistry.contains_iff, types_registry_ofProjects, List.mem_flatMap]
  refine exists_congr fun project => and_congr_right fun _ => ?_
  simp only [List.mem_map, Prod.mk.injEq]
  grind

/-- No type is entered twice: not by one project, and not by two, for these have different names. -/
theorem nodup_types_registry (projects : List Project) :
    (ofProjects style projects).registry.types.Nodup := by
  rw [types_registry_ofProjects, List.nodup_flatMap]
  refine ⟨fun project _ => (Name.nodup_distinct _).map fun _ _ h => (Prod.mk.inj h).2, ?_⟩
  refine (List.pairwise_map.1 (nodup_indexedProjects projects)).imp fun {a b} hname => ?_
  refine List.disjoint_left.2 fun entry ha hb => hname ?_
  obtain ⟨_, _, rfl⟩ := List.mem_map.1 ha
  obtain ⟨_, _, heq⟩ := List.mem_map.1 hb
  exact (Prod.mk.inj heq).1.symm

theorem registers_ofProjects (projects : List Project) :
    Registers projects (ofProjects style projects) where
  contains_iff assembly type := by
    rw [contains_ofProjects_iff]
    refine exists_congr fun project => ?_
    rw [mem_indexedProjects, Project.mem_namesWithMembers_declared]
    rfl
  indexed assembly type h := by
    obtain ⟨project, hproject, rfl, htype⟩ := contains_ofProjects_iff.1 h
    refine ⟨project.assembly style (ofProjects style projects).registry, ?_, rfl,
      Project.exists_type_of_mem_namesWithMembers htype⟩
    rw [ofProjects_assemblies]
    exact List.mem_map_of_mem hproject
  model project documents haccepted hsorted front document back type hdocuments hintroduces
      hfirst := by
    obtain rfl := hsorted.unique (stablySorted_sortedByName Document.name project.documents)
    rw [model?_ofProjects_of_mem (mem_indexedProjects.2 haccepted)]
    exact Project.model?_of_introduces hdocuments hintroduces hfirst
  size := by
    refine ⟨_, nodup_types_registry projects, fun _ _ => SymbolRegistry.contains_iff.symm, ?_⟩
    rw [SymbolRegistry.types, List.length_map]
    rfl

/-- A provider that gives its projects leads to an index in which just the types that are declared
with members have a model, each that of the first document that declares it so. A provider that
gives none leads to its failure. -/
theorem ofProvider_registers (style : DiagramStyle) (provider : Provider) :
    match provider.projects with
    | .ok projects => ∃ index, ofProvider style provider = .ok index ∧ Registers projects index
    | .error failure => ofProvider style provider = .error failure := by
  unfold ofProvider
  cases provider.projects with
  | ok projects => exact ⟨_, rfl, registers_ofProjects projects⟩
  | error failure => rfl

end Index

end ClassDiagram
