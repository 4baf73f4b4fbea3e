import ClassDiagram.Manifest.Codebase
import ClassDiagram.Proofs.Registrations

/-!
# Assemblies do not influence each other

All projects of a codebase write into one registry, and while one is taken in, its types are
connected by what the registry holds at that moment. Still, nothing of an assembly depends on the
projects before it or after it: the registry of the codebase consists of those that its projects
have on their own, and an assembly asks for what stands under its own name only. So an assembly is
what it would be if its project were the whole codebase (`Index.ofProjects_alone`), whatever types
of the same names the other projects declare.
-/

namespace ClassDiagram

/-! ## Projects on their own -/

namespace Index

/-- The second index is about an assembly only, and of this assembly the first one holds just the
same, and draws the same in any style. -/
structure HasPart (name : String) (whole part : Index) : Prop where
  /-- Records and the names they refer to. -/
  assembly : ∃ assembly : Assembly, assembly.name = name ∧ part.assemblies = [assembly]
    ∧ whole.assembly? name = some assembly
  listing : whole.listing? name = part.listing? name
  registrations : whole.registry.registrations.filter (·.assembly == name)
    = part.registry.registrations
  symbols : ∀ type, whole.registry.symbol? name type = part.registry.symbol? name type
  diagrams : ∀ style className,
    whole.diagram? style name className = part.diagram? style name className

/-- Assemblies that have the same records and the same symbols have the same diagrams. -/
theorem diagram?_congr {index' index : Index} {assembly : String}
    (hassembly : index'.assembly? assembly = index.assembly? assembly)
    (hsymbols : ∀ type, index'.registry.symbol? assembly type
      = index.registry.symbol? assembly type) (style : DiagramStyle) (name : String) :
    index'.diagram? style assembly name = index.diagram? style assembly name := by
  have hdiagrams : index'.diagramOf style assembly = index.diagramOf style assembly := by
    funext type
    unfold diagramOf drawingOf
    rw [Connections.ofType_congr (hsymbols type.qualifiedName)]
  unfold diagram? type?
  rw [hassembly, hdiagrams]

variable {style : DiagramStyle} {projects : List Project} {project : Project}

theorem assembly?_ofProjects (h : project ∈ indexedProjects projects) :
    (ofProjects style projects).assembly? project.name
      = some (project.assembly style (ofProjects style projects).registry) := by
  have hmem : project.assembly style (ofProjects style projects).registry
      ∈ (ofProjects style projects).assemblies := by
    rw [ofProjects_assemblies]
    exact List.mem_map_of_mem h
  exact assembly?_of_mem hmem

/-- The index of an accepted project on its own is a part of the index of the codebase. -/
theorem hasPart_ofProjects (h : project ∈ indexedProjects projects) :
    HasPart project.name (ofProjects style projects) (ofProjects style [project]) := by
  have halone : indexedProjects [project] = [project] :=
    indexedProjects_singleton (mem_indexedProjects.1 h).1
  have hself : project ∈ indexedProjects [project] := by
    rw [halone]
    exact List.mem_singleton_self project
  have hregistrations : (ofProjects style projects).registry.registrations.filter
      (·.assembly == project.name) = (ofProjects style [project]).registry.registrations := by
    rw [filter_registrations_ofProjects h, registrations_ofProjects, halone,
      List.flatMap_singleton]
  have hsymbols : ∀ type, (ofProjects style projects).registry.symbol? project.name type
      = (ofProjects style [project]).registry.symbol? project.name type := by
    intro type
    refine SymbolRegistry.symbol?_congr ?_
    rw [model?_ofProjects_of_mem h, model?_ofProjects_of_mem hself]
  -- both connect the types of the project by the same symbols
  have hwhole : (ofProjects style projects).assembly? project.name
      = some (project.assembly style (ofProjects style [project]).registry) := by
    rw [assembly?_ofProjects h, Project.assembly_congr hsymbols]
  have hpart : (ofProjects style [project]).assemblies
      = [project.assembly style (ofProjects style [project]).registry] := by
    rw [ofProjects_assemblies, halone, List.map_singleton]
  have hsame : (ofProjects style projects).assembly? project.name
      = (ofProjects style [project]).assembly? project.name := by
    rw [hwhole, assembly?_ofProjects hself]
  exact
    { assembly := ⟨_, rfl, hpart, hwhole⟩
      listing := congrArg (Option.map Assembly.listing) hsame
      registrations := hregistrations
      symbols := hsymbols
      diagrams := diagram?_congr hsame hsymbols }

/-- **Assemblies do not influence each other.** A project that gives rise to an assembly, that is
the first one with its name, which is not empty, gives rise to the same without all others. This
holds for codebases whose models are given as well as for manifests, where a project on its own is
a manifest that lists no other. -/
theorem ofProjects_alone (style : DiagramStyle) :
    (∀ (projects : List Project) (project : Project), project.name ≠ "" →
        projects.find? (·.name == project.name) = some project →
        HasPart project.name (ofProjects style projects) (ofProjects style [project]))
      ∧ ∀ (manifest : Manifest) (entry : Manifest.ProjectEntry), entry.name ≠ "" →
        manifest.projects.find? (·.name == entry.name) = some entry →
        HasPart entry.name (ofProjects style manifest.toProjects)
          (ofProjects style (Manifest.mk [entry]).toProjects) := by
  refine ⟨fun projects project hname hfirst => hasPart_ofProjects (mem_indexedProjects.2
    ⟨hname, hfirst⟩), fun manifest entry hname hfirst => ?_⟩
  have hentry : entry.toProject ∈ indexedProjects manifest.toProjects := by
    refine mem_indexedProjects.2 ⟨hname, ?_⟩
    rw [Manifest.toProjects, List.find?_map]
    exact congrArg (Option.map Manifest.ProjectEntry.toProject) hfirst
  exact hasPart_ofProjects hentry

/-- A dog in one part, with another base than `dog`. -/
def otherDog : SourceTree where
  root := some
    [{ keyword := .forClass, identifier := "Dog", bases := ["Pest"],
       members := [.property [] "Age" "int"] }]

/-- Another project that declares dogs. -/
def otherDogs (name : String) : Project where
  name := name
  documents :=
    [{ name := "Dog.cs"
       model := some fun type => some ⟨type, some "Pest", []⟩
       tree := some otherDog }]

def dogEntry (name : String) : Manifest.ProjectEntry where
  name := name
  symbols := .ofList []
  documents := [{ name := "Dog.cs", tree := some otherDog }]

/-- Of all projects that declare dogs, also under the same name of a project, only the first one
that is called Zoo has a part in what the dogs of the Zoo are. -/
theorem ofProjects_alone_zoo :
    let projects :=
      [otherDogs "Ark", dogInTwoParts, otherDogs "Zoo", otherDogs "", otherDogs "Zoos"]
    let manifest := Manifest.mk [dogEntry "Ark", dogEntry "Zoo", dogEntry "Zoo"]
    dogInTwoParts.name ≠ "" ∧ projects.find? (·.name == dogInTwoParts.name) = some dogInTwoParts
      ∧ HasPart "Zoo" (ofProjects {} projects) (ofProjects {} [dogInTwoParts])
      ∧ (ofProjects {} projects).assembly? "Zoo" = some ⟨"Zoo", [dog]⟩
      ∧ manifest.projects.find? (·.name == "Zoo") = some (dogEntry "Zoo")
      ∧ HasPart "Zoo" (ofProjects {} manifest.toProjects)
        (ofProjects {} (Manifest.mk [dogEntry "Zoo"]).toProjects) := by
  intro projects manifest
  have hname : "Zoo" ≠ "" := by decide
  have hfirst : projects.find? (·.name == "Zoo") = some dogInTwoParts := rfl
  have hentry : manifest.projects.find? (·.name == "Zoo") = some (dogEntry "Zoo") := rfl
  obtain ⟨hgiven, hinferred⟩ := ofProjects_alone {}
  have hpart := hgiven projects dogInTwoParts hname hfirst
  obtain ⟨assembly, _, halone, hwhole⟩ := hpart.assembly
  rw [assemblies_dogInTwoParts] at halone
  obtain rfl := List.singleton_inj.1 halone
  exact ⟨hname, hfirst, hpart, hwhole, hentry, hinferred manifest (dogEntry "Zoo") hname hentry⟩

end Index

end ClassDiagram
