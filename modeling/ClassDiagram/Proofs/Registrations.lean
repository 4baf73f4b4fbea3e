import ClassDiagram.Proofs.IndexContents

/-!
# Which model answers for a type

All projects of a codebase write into one registry. It grows with every declaration that has
members, and the first model entered for a type stays. This file reads the finished registry off
the codebase.

What a project enters stands under its own name, and what stands under other names is not in the
way (`SymbolRegistry.foldl_enter_behind`). So the registry of a codebase consists of those that its
projects have on their own, one after the other (`Index.registrations_ofProjects`). Which model
answers for a type follows from it (`Index.model?_ofProjects`): that of the document in which the
first declaration with members stands. Declarations without members play no part, wherever they
stand.
-/

namespace ClassDiagram

/-! ## Entering models -/

namespace SymbolRegistry

variable {registry : SymbolRegistry} {assembly type : String}

theorem contains_eq_isSome : registry.contains assembly type
    = (registry.model? assembly type).isSome := by
  rw [model?, Option.isSome_map, contains, Bool.eq_iff_iff, List.find?_isSome, List.any_eq_true]

theorem model?_add (model : SymbolModel) :
    (registry.add assembly type model).model? assembly type
      = (registry.model? assembly type).or (some model) := by
  rw [add, contains_eq_isSome]
  cases hmodel : registry.model? assembly type with
  | some known => exact hmodel
  | none =>
      have hnone : registry.registrations.find? (·.isFor assembly type) = none :=
        Option.map_eq_none_iff.1 hmodel
      rw [if_neg (by simp), model?, List.find?_append, hnone]
      simp [Registration.isFor]

/-- A type with a model has the symbol that this model gives it. -/
theorem symbol?_of_model? {model : SymbolModel}
    (h : registry.model? assembly type = some model) :
    registry.symbol? assembly type = model type := by
  rw [symbol?, h]
  rfl

/-- The registrations of an assembly decide which models its types have. -/
theorem model?_eq_of_filter_eq {registry' registry : SymbolRegistry}
    (h : registry'.registrations.filter (·.assembly == assembly)
      = registry.registrations.filter (·.assembly == assembly)) (type : String) :
    registry'.model? assembly type = registry.model? assembly type := by
  have hfilter : ∀ registrations : List Registration,
      registrations.find? (·.isFor assembly type)
        = (registrations.filter (·.assembly == assembly)).find? (·.isFor assembly type) := by
    intro registrations
    rw [List.find?_filter]
    congr 1
    funext registration
    rw [Bool.eq_iff_iff]
    simp [Registration.isFor]
  rw [model?, model?, hfilter, h, ← hfilter]

end SymbolRegistry

/-! ## What an assembly enters -/

/-- Whether a model is entered for the type because of what is contributed. -/
def Contribution.registers (contribution : Contribution) (type : String) : Bool :=
  !contribution.occurrence.declaration.members.isEmpty
    && contribution.occurrence.qualifiedName == type

namespace SymbolRegistry

/-- The registry with what a document of the assembly enters because of one of its declarations. -/
def enter (assembly : String) (registry : SymbolRegistry) (contribution : Contribution) :
    SymbolRegistry :=
  if contribution.occurrence.declaration.members.isEmpty then registry
  else registry.add assembly contribution.occurrence.qualifiedName contribution.model

variable {assembly : String} {others : List Registration}

/-- Behind registrations of other assemblies, a model is entered if it is entered without them. -/
theorem add_behind (hothers : ∀ other ∈ others, other.assembly ≠ assembly)
    (registry : SymbolRegistry) (type : String) (model : SymbolModel) :
    (SymbolRegistry.mk (others ++ registry.registrations)).add assembly type model
      = ⟨others ++ (registry.add assembly type model).registrations⟩ := by
  have hnone : others.any (·.isFor assembly type) = false :=
    List.any_eq_false.2 fun other hother => by simp [Registration.isFor, hothers other hother]
  have hcontains : (SymbolRegistry.mk (others ++ registry.registrations)).contains assembly type
      = registry.contains assembly type := by
    rw [contains, List.any_append, hnone, Bool.false_or, contains]
  rw [add, add, hcontains]
  cases registry.contains assembly type with
  | true => rfl
  | false => simp

/-- **What stands under other names is not in the way** of anything that an assembly enters. -/
theorem foldl_enter_behind (hothers : ∀ other ∈ others, other.assembly ≠ assembly)
    (contributions : List Contribution) (registry : SymbolRegistry) :
    contributions.foldl (enter assembly) ⟨others ++ registry.registrations⟩
      = ⟨others ++ (contributions.foldl (enter assembly) registry).registrations⟩ := by
  induction contributions generalizing registry with
  | nil => rfl
  | cons contribution rest ih =>
      rw [List.foldl_cons, List.foldl_cons, ← ih]
      congr 1
      unfold enter
      cases contribution.occurrence.declaration.members.isEmpty with
      | true => rfl
      | false => exact add_behind hothers _ _ _

theorem mem_add {registry : SymbolRegistry} {type : String} {model : SymbolModel}
    {registration : Registration}
    (h : registration ∈ (registry.add assembly type model).registrations) :
    registration ∈ registry.registrations ∨ registration = ⟨assembly, type, model⟩ := by
  unfold add at h
  split at h
  · exact .inl h
  · exact (List.mem_append.1 h).imp_right List.mem_singleton.1

/-- What an assembly enters stands under its own name. -/
theorem mem_foldl_enter {contributions : List Contribution} {registry : SymbolRegistry}
    {registration : Registration}
    (h : registration ∈ (contributions.foldl (enter assembly) registry).registrations) :
    registration ∈ registry.registrations ∨ registration.assembly = assembly := by
  induction contributions generalizing registry with
  | nil => exact .inl h
  | cons contribution rest ih =>
      refine (ih h).elim (fun hmem => ?_) .inr
      unfold enter at hmem
      split at hmem
      · exact .inl hmem
      · exact (mem_add hmem).imp_right (congrArg Registration.assembly)

theorem model?_enter_of_registers {contribution : Contribution} {type : String}
    (h : contribution.registers type = true) (registry : SymbolRegistry) :
    (registry.enter assembly contribution).model? assembly type
      = (registry.model? assembly type).or (some contribution.model) := by
  obtain ⟨hmembers, rfl⟩ : contribution.occurrence.declaration.members.isEmpty = false
      ∧ contribution.occurrence.qualifiedName = type := by
    simpa [Contribution.registers] using h
  rw [enter, hmembers, if_neg Bool.false_ne_true]
  exact model?_add contribution.model

theorem model?_enter_of_not_registers {contribution : Contribution} {type : String}
    (h : contribution.registers type = false) (registry : SymbolRegistry) :
    (registry.enter assembly contribution).model? assembly type
      = registry.model? assembly type := by
  unfold enter
  split
  · rfl
  next hmembers =>
    refine model?_add_of_ne fun he => ?_
    simp [Contribution.registers, hmembers, he.2] at h

/-- The first contribution that enters a model for the type decides which one it is. -/
theorem model?_foldl_enter (contributions : List Contribution) (registry : SymbolRegistry)
    (type : String) :
    (contributions.foldl (enter assembly) registry).model? assembly type
      = (registry.model? assembly type).or
          ((contributions.find? (·.registers type)).map (·.model)) := by
  induction contributions generalizing registry with
  | nil => rw [List.find?_nil, Option.map_none, Option.or_none]; rfl
  | cons contribution rest ih =>
      rw [List.foldl_cons, ih, List.find?_cons]
      cases hregisters : contribution.registers type with
      | true =>
          rw [model?_enter_of_registers hregisters, Option.or_assoc]
          rfl
      | false => rw [model?_enter_of_not_registers hregisters]

end SymbolRegistry

theorem AssemblyDraft.registry_foldl_add {style : DiagramStyle} {assembly : String}
    (contributions : List Contribution) (draft : AssemblyDraft) :
    (contributions.foldl (add style assembly) draft).registry
      = contributions.foldl (SymbolRegistry.enter assembly) draft.registry := by
  induction contributions generalizing draft with
  | nil => rfl
  | cons contribution rest ih => exact ih (draft.add style assembly contribution)

/-- The registry that a project has on its own. -/
def Project.registry (project : Project) : SymbolRegistry :=
  project.contributions.foldl (SymbolRegistry.enter project.name) {}

/-- The model that the documents of a project enter for a type. -/
def Project.model? (project : Project) (type : String) : Option SymbolModel :=
  (project.contributions.find? (·.registers type)).map (·.model)

namespace Project

theorem model?_registry (project : Project) (type : String) :
    project.registry.model? project.name type = project.model? type :=
  SymbolRegistry.model?_foldl_enter project.contributions {} type

theorem assembly_of_mem_registry {project : Project} {registration : Registration}
    (h : registration ∈ project.registry.registrations) :
    registration.assembly = project.name :=
  (SymbolRegistry.mem_foldl_enter h).resolve_left List.not_mem_nil

/-- A project finds all its registrations under its name. -/
theorem filter_registry (project : Project) :
    project.registry.registrations.filter (·.assembly == project.name)
      = project.registry.registrations :=
  List.filter_eq_self.2 fun _ hmem => beq_iff_eq.2 (assembly_of_mem_registry hmem)

end Project

/-! ## The registry of a codebase -/

/-- Of projects with different names, each finds its own registrations by its name. -/
theorem filter_registrations {projects : List Project} {project : Project}
    (hnodup : (projects.map Project.name).Nodup) (h : project ∈ projects) :
    (projects.flatMap fun project => project.registry.registrations).filter
        (·.assembly == project.name)
      = project.registry.registrations := by
  have hforeign : ∀ other : Project, other.name ≠ project.name →
      other.registry.registrations.filter (·.assembly == project.name) = [] := by
    intro other hname
    refine List.filter_eq_nil_iff.2 fun registration hmem => ?_
    simpa [Project.assembly_of_mem_registry hmem] using hname
  induction projects with
  | nil => exact absurd h List.not_mem_nil
  | cons first rest ih =>
      rw [List.map_cons, List.nodup_cons] at hnodup
      rw [List.flatMap_cons, List.filter_append]
      rcases List.mem_cons.1 h with rfl | h
      · -- the projects behind it all have other names
        have hrest : (rest.flatMap fun other => other.registry.registrations).filter
            (·.assembly == project.name) = [] := by
          rw [List.filter_flatMap, List.flatMap_eq_nil_iff]
          exact fun other hother => hforeign other fun hname =>
            hnodup.1 (hname ▸ List.mem_map_of_mem hother)
        rw [project.filter_registry, hrest, List.append_nil]
      · have hfirst : first.name ≠ project.name := fun hname =>
          hnodup.1 (hname ▸ List.mem_map_of_mem h)
        rw [hforeign first hfirst, List.nil_append]
        exact ih hnodup.2 h

namespace Index

variable {style : DiagramStyle}

theorem registrations_addProject {index : Index} {project : Project}
    (hothers : ∀ other ∈ index.registry.registrations, other.assembly ≠ project.name) :
    (index.addProject style project).registry.registrations
      = index.registry.registrations ++ project.registry.registrations := by
  rw [registry_addProject, AssemblyDraft.registry_foldl_add]
  have hbehind := SymbolRegistry.foldl_enter_behind hothers project.contributions {}
  rw [List.append_nil] at hbehind
  exact congrArg SymbolRegistry.registrations hbehind

theorem registrations_foldl_addProject (projects : List Project)
    (hnodup : (projects.map Project.name).Nodup) :
    (projects.foldl (addProject style) {}).registry.registrations
      = projects.flatMap fun project => project.registry.registrations := by
  induction projects using List.reverseRecOn with
  | nil => rfl
  | append_singleton projects last ih =>
      rw [List.map_append, List.nodup_append] at hnodup
      have hbefore := ih hnodup.1
      rw [List.foldl_append, List.foldl_cons, List.foldl_nil, List.flatMap_append,
        List.flatMap_singleton, registrations_addProject, hbefore]
      -- what is there already belongs to projects with other names than the last one
      intro other hother
      rw [hbefore] at hother
      obtain ⟨project, hproject, hentry⟩ := List.mem_flatMap.1 hother
      rw [Project.assembly_of_mem_registry hentry]
      exact hnodup.2.2 project.name (List.mem_map_of_mem hproject) last.name (by simp)

/-- **The registry of a codebase** consists of those that its accepted projects have on their
own. -/
theorem registrations_ofProjects (projects : List Project) :
    (ofProjects style projects).registry.registrations
      = (indexedProjects projects).flatMap fun project => project.registry.registrations :=
  registrations_foldl_addProject _ (nodup_indexedProjects projects)

/-- An accepted project finds its registrations, and no others, under its name. -/
theorem filter_registrations_ofProjects {projects : List Project} {project : Project}
    (h : project ∈ indexedProjects projects) :
    (ofProjects style projects).registry.registrations.filter (·.assembly == project.name)
      = project.registry.registrations := by
  rw [registrations_ofProjects]
  exact filter_registrations (nodup_indexedProjects projects) h

/-- **Which model answers.** In a finished index the model of a type is the one that the project
of its assembly enters for it. -/
theorem model?_ofProjects (projects : List Project) (assembly type : String) :
    (ofProjects style projects).registry.model? assembly type
      = ((indexedProjects projects).find? (·.name == assembly)).bind (·.model? type) := by
  cases hfound : (indexedProjects projects).find? (·.name == assembly) with
  | none =>
      -- no project enters anything under this name
      refine Option.map_eq_none_iff.2 (List.find?_eq_none.2 fun registration hmem => ?_)
      rw [registrations_ofProjects] at hmem
      obtain ⟨project, hproject, hentry⟩ := List.mem_flatMap.1 hmem
      have hne : project.name ≠ assembly := by
        simpa using List.find?_eq_none.1 hfound project hproject
      simp [Registration.isFor, Project.assembly_of_mem_registry hentry, hne]
  | some project =>
      obtain rfl : project.name = assembly := by simpa using List.find?_some hfound
      rw [Option.bind_some, ← project.model?_registry]
      refine SymbolRegistry.model?_eq_of_filter_eq ?_ type
      rw [filter_registrations_ofProjects (List.mem_of_find?_eq_some hfound),
        project.filter_registry]

/-- For the types of an accepted project its own models answer. -/
theorem model?_ofProjects_of_mem {projects : List Project} {project : Project}
    (hproject : project ∈ indexedProjects projects) (type : String) :
    (ofProjects style projects).registry.model? project.name type = project.model? type := by
  rw [model?_ofProjects, find?_eq_some_of_nodup (nodup_indexedProjects projects) hproject]
  rfl

/-- The types with a model are those that have a declaration with members. -/
theorem contains_ofProjects {projects : List Project} {project : Project}
    (hproject : project ∈ indexedProjects projects) (type : String) :
    (ofProjects style projects).registry.contains project.name type
      = project.contributions.any (·.registers type) := by
  rw [SymbolRegistry.contains_eq_isSome, model?_ofProjects_of_mem hproject, Project.model?,
    Option.isSome_map, Bool.eq_iff_iff, List.find?_isSome, List.any_eq_true]

end Index

end ClassDiagram
