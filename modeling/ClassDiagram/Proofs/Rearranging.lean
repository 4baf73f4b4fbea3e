import ClassDiagram.Proofs.IndexContents

/-!
# The order in which a codebase is listed

Projects and documents are taken in by their names, so an index does not show in which order a
codebase lists them. Only where two projects or two documents have the same name does it matter
which one comes first: the first project of a name is the one that counts, and of documents with
one name the first may decide what a type is and which model answers for it.

`Codebase.Rearranged` is two listings of one codebase, and `Index.ofProvider_rearranged` says
that both lead to the same index, down to the model that is entered for each type.
-/

namespace ClassDiagram

/-! ## Sorting things that are changed -/

/-- Things can be sorted by name before or after they are changed, if this keeps their names. -/
theorem Text.sortedByName_map_of_mem {α β : Type} {name : α → String} {name' : β → String}
    {f : α → β} {things : List α} (hname : ∀ a ∈ things, name' (f a) = name a) :
    sortedByName name' (things.map f) = (sortedByName name things).map f := by
  rw [sortedByName, sortedByName, List.map_mergeSort]
  intro a ha b hb
  rw [hname a ha, hname b hb]

theorem Text.sortedByName_map {α β : Type} {name : α → String} {name' : β → String} {f : α → β}
    (hname : ∀ a, name' (f a) = name a) (things : List α) :
    sortedByName name' (things.map f) = (sortedByName name things).map f :=
  sortedByName_map_of_mem fun a _ => hname a

theorem firstOfEachName_map {f : Project → Project}
    (hname : ∀ project, (f project).name = project.name) (projects : List Project) :
    firstOfEachName (projects.map f) = (firstOfEachName projects).map f := by
  induction projects with
  | nil => rfl
  | cons project rest ih =>
      rw [List.map_cons, firstOfEachName, firstOfEachName, List.map_cons, ih, List.filter_map]
      have hsame : ((fun other : Project => decide (other.name ≠ (f project).name)) ∘ f)
          = fun other => decide (other.name ≠ project.name) := by
        funext other
        rw [Function.comp_apply, hname, hname]
      rw [hsame]

/-- Which projects become assemblies depends on their names alone. -/
theorem indexedProjects_map {f : Project → Project}
    (hname : ∀ project, (f project).name = project.name) (projects : List Project) :
    indexedProjects (projects.map f) = (indexedProjects projects).map f := by
  rw [indexedProjects, indexedProjects, Text.sortedByName_map hname, List.filter_map,
    firstOfEachName_map hname]
  have hsame : ((fun project : Project => decide (project.name ≠ "")) ∘ f)
      = fun project => decide (project.name ≠ "") := by
    funext project
    rw [Function.comp_apply, hname]
  rw [hsame]

/-! ## Listings of one codebase -/

/-- The project with its documents in the order of their names. -/
def Project.tidy (project : Project) : Project :=
  { project with documents := Text.sortedByName Document.name project.documents }

/-- The same project with its documents in another order, in which the documents of one name
stand as they stood. -/
structure Project.Rearranged (project' project : Project) : Prop where
  name_eq : project'.name = project.name
  documents : ClassDiagram.Rearranged Document.name project'.documents project.documents

theorem Project.Rearranged.tidy_eq {project' project : Project} (h : project'.Rearranged project) :
    project'.tidy = project.tidy := by
  unfold tidy
  rw [h.name_eq, h.documents.sortedByName_eq]

/-- The same codebase in another order: first the projects are put in another order and then the
documents of each. What has the same name stands as it stood. -/
def Codebase.Rearranged (projects' projects : List Project) : Prop :=
  ∃ between, ClassDiagram.Rearranged Project.name between projects
    ∧ List.Forall₂ Project.Rearranged projects' between

namespace Index

variable {style : DiagramStyle}

/-- An index takes in the documents of a project in order anyhow. -/
theorem addProject_tidy (index : Index) (project : Project) :
    index.addProject style project.tidy = index.addProject style project := by
  unfold addProject Project.tidy
  rw [(rearranged_sortedByName Document.name project.documents).sortedByName_eq]

/-- Projects may be changed in ways that do not show when they are taken in. -/
theorem ofProjects_map {f : Project → Project}
    (hname : ∀ project, (f project).name = project.name)
    (hadd : ∀ index project, addProject style index (f project) = addProject style index project)
    (projects : List Project) :
    ofProjects style (projects.map f) = ofProjects style projects := by
  have hstep : (fun index project => addProject style index (f project)) = addProject style :=
    funext fun index => funext fun project => hadd index project
  rw [ofProjects, indexedProjects_map hname, List.foldl_map, hstep, ofProjects]

theorem ofProjects_tidy (projects : List Project) :
    ofProjects style (projects.map Project.tidy) = ofProjects style projects :=
  ofProjects_map (f := Project.tidy) (fun _ => rfl) addProject_tidy projects

/-- **The order of a codebase does not show.** -/
theorem ofProjects_rearranged {projects' projects : List Project}
    (h : Codebase.Rearranged projects' projects) :
    ofProjects style projects' = ofProjects style projects := by
  obtain ⟨between, hprojects, hdocuments⟩ := h
  have htidy : projects'.map Project.tidy = between.map Project.tidy := by
    rw [← List.forall₂_eq_eq_eq, List.forall₂_map_left_iff, List.forall₂_map_right_iff]
    exact hdocuments.imp fun _ _ h => h.tidy_eq
  calc ofProjects style projects' = ofProjects style (projects'.map Project.tidy) :=
        (ofProjects_tidy projects').symm
    _ = ofProjects style between := by rw [htidy, ofProjects_tidy]
    _ = ofProjects style projects := by
        rw [ofProjects, indexedProjects, hprojects.sortedByName_eq]
        rfl

/-- Providers that list one codebase in different orders lead to the same index: the same
assemblies with the same types, the same models for them, and the same number of documents left
out. -/
theorem ofProvider_rearranged {provider' provider : Provider} {projects' projects : List Project}
    (hprojects' : provider'.projects = .ok projects') (hprojects : provider.projects = .ok projects)
    (h : Codebase.Rearranged projects' projects) :
    ∃ index, ofProvider style provider' = .ok index ∧ ofProvider style provider = .ok index := by
  unfold ofProvider
  rw [hprojects', hprojects]
  exact ⟨ofProjects style projects, congrArg Except.ok (ofProjects_rearranged h), rfl⟩

end Index

namespace Codebase

/-- Half a class, which names the base. -/
def dogBases : Document where
  name := "Dog.cs"
  model := some fun name => some ⟨name, some "Animal", []⟩
  tree := some
    { root := some
        [{ keyword := .forClass, identifier := "Dog", bases := ["Animal"],
           members := [.other "event"] }] }

/-- The other half, in a document of the same name and with a model of its own. -/
def dogName : Document where
  name := "Dog.cs"
  model := some fun _ => none
  tree := some
    { root := some
        [{ keyword := .forRecord, identifier := "Dog",
           members := [.property [] "Name" "string"] }] }

/-- A document that has no model. -/
def notes : Document where
  name := "A.cs"

/-- Two projects have the same name, and so have two documents of the first one. -/
def kennels : List Project :=
  [⟨"Zoo", [notes, dogBases, dogName]⟩, ⟨"Farm", [dogName]⟩, ⟨"Zoo", [dogName]⟩]

/-- The same codebase in another order. -/
def kennelsAgain : List Project :=
  [⟨"Farm", [dogName]⟩, ⟨"Zoo", [dogBases, notes, dogName]⟩, ⟨"Zoo", [dogName]⟩]

theorem rearranged_kennelsAgain : Codebase.Rearranged kennelsAgain kennels := by
  refine ⟨[⟨"Farm", [dogName]⟩, ⟨"Zoo", [notes, dogBases, dogName]⟩, ⟨"Zoo", [dogName]⟩],
    .swap (by decide) [] _, ?_⟩
  have hfarm : Project.Rearranged ⟨"Farm", [dogName]⟩ ⟨"Farm", [dogName]⟩ := ⟨rfl, .refl _⟩
  have hzoo : Project.Rearranged ⟨"Zoo", [dogBases, notes, dogName]⟩
      ⟨"Zoo", [notes, dogBases, dogName]⟩ := ⟨rfl, .swap (by decide) [] [dogName]⟩
  have hspare : Project.Rearranged ⟨"Zoo", [dogName]⟩ ⟨"Zoo", [dogName]⟩ := ⟨rfl, .refl _⟩
  exact .cons hfarm (.cons hzoo (.cons hspare .nil))

end Codebase

theorem Index.ofProvider_rearranged_kennels :
    (Provider.ofProjects Codebase.kennelsAgain).projects = .ok Codebase.kennelsAgain
      ∧ (Provider.ofProjects Codebase.kennels).projects = .ok Codebase.kennels
      ∧ Codebase.Rearranged Codebase.kennelsAgain Codebase.kennels
      ∧ ∃ index, ofProvider {} (.ofProjects Codebase.kennelsAgain) = .ok index
        ∧ ofProvider {} (.ofProjects Codebase.kennels) = .ok index :=
  ⟨rfl, rfl, Codebase.rearranged_kennelsAgain,
    ofProvider_rearranged rfl rfl Codebase.rearranged_kennelsAgain⟩

end ClassDiagram
