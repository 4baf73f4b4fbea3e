import ClassDiagram.Proofs.Agreement
import ClassDiagram.Proofs.ProjectNames
import ClassDiagram.Proofs.Rearranging

/-!
# Codebases that are told in other words

A source tree may say the same in different words: a type may be declared in one go or in parts,
in its place inside another type or with its namespace written out. Neither an index nor the names
of a project keep the words. Both go through the declarations one by one, and of each they take
the head, which tells what type it is about, and add the rest to what they have of this type.

`Retold` is the relation between two such lists of declarations. What carries everything is that
one declaration may be taken in as two (`AssemblyDraft.addOccurrence_parts`): the second part finds
the type where the first one has put it and connects it once more. `Codebase.alike_of_reworded` and
`Manifest.alike_of_reworded` say the rest: trees may be reworded all over a codebase, and the
index and every diagram are the same.
-/

namespace ClassDiagram

/-! ## Declarations in other words -/

/-- Two declarations are about the same type and say that it is of the same kind. -/
structure Occurrence.SameHead (occurrence' occurrence : Occurrence) : Prop where
  keyword : occurrence'.declaration.keyword = occurrence.declaration.keyword
  modifiers : occurrence'.declaration.modifiers = occurrence.declaration.modifiers
  identifier : occurrence'.declaration.identifier = occurrence.declaration.identifier
  scope : occurrence'.scope = occurrence.scope

/-- The same declarations in other words: each of them may be told in two parts. Types nested in
a declaration are declarations of their own here, and its namespace is the one that it is in, so
neither counts where it stands. -/
inductive Retold : List Occurrence → List Occurrence → Prop
  | nil : Retold [] []
  | same {occurrence' occurrence : Occurrence} {rest' rest : List Occurrence}
      (head : occurrence'.SameHead occurrence)
      (bases : occurrence'.declaration.bases = occurrence.declaration.bases)
      (members : occurrence'.declaration.members = occurrence.declaration.members)
      (others : Retold rest' rest) : Retold (occurrence' :: rest') (occurrence :: rest)
  | parts {first second whole : Occurrence} {rest' rest : List Occurrence}
      (head : first.SameHead whole) (head' : second.SameHead whole)
      (bases : whole.declaration.bases = first.declaration.bases ++ second.declaration.bases)
      (members : whole.declaration.members
        = first.declaration.members ++ second.declaration.members)
      (others : Retold rest' rest) : Retold (first :: second :: rest') (whole :: rest)

namespace Occurrence.SameHead

variable {occurrence' occurrence : Occurrence}

theorem refl (occurrence : Occurrence) : occurrence.SameHead occurrence :=
  ⟨rfl, rfl, rfl, rfl⟩

theorem qualifiedName_eq (h : occurrence'.SameHead occurrence) :
    occurrence'.qualifiedName = occurrence.qualifiedName := by
  rw [qualifiedName, qualifiedName, h.scope, h.identifier]

theorem kind_eq (h : occurrence'.SameHead occurrence) :
    occurrence'.known.kind = occurrence.known.kind := by
  unfold known
  rw [h.keyword, h.modifiers]

theorem ofOccurrence_eq (h : occurrence'.SameHead occurrence) :
    IndexedType.ofOccurrence occurrence' = .ofOccurrence occurrence := by
  unfold IndexedType.ofOccurrence
  rw [h.qualifiedName_eq, h.keyword, h.modifiers, h.identifier, h.scope]

end Occurrence.SameHead

namespace Retold

theorem refl (occurrences : List Occurrence) : Retold occurrences occurrences := by
  induction occurrences with
  | nil => exact .nil
  | cons occurrence rest ih => exact .same (.refl occurrence) rfl rfl ih

theorem append {front' front back' back : List Occurrence} (hfront : Retold front' front)
    (hback : Retold back' back) : Retold (front' ++ back') (front ++ back) := by
  induction hfront with
  | nil => exact hback
  | same head bases members _ ih => exact .same head bases members ih
  | parts head head' bases members _ ih => exact .parts head head' bases members ih

end Retold

/-! ## Taking declarations in -/

/-- To enter a model twice is to enter it once. -/
theorem SymbolRegistry.add_add (registry : SymbolRegistry) (assembly type : String)
    (model : SymbolModel) :
    (registry.add assembly type model).add assembly type model
      = registry.add assembly type model := by
  have hcontains : (registry.add assembly type model).contains assembly type = true := by
    unfold add
    split
    next h => exact h
    · rw [contains, List.any_append]
      simp [Registration.isFor]
  exact if_pos hcontains

/-- Two changes of the type of one name are one change. -/
theorem updateType_updateType {change change' : IndexedType → IndexedType}
    (hname : ∀ type, (change type).qualifiedName = type.qualifiedName) (new : IndexedType)
    (types : List IndexedType) :
    updateType change' new (updateType change new types)
      = updateType (fun type => change' (change type)) new types := by
  induction types with
  | nil => exact if_pos (hname new)
  | cons type rest ih =>
      rw [updateType, updateType]
      split
      next h => rw [updateType, if_pos ((hname type).trans h)]
      next h => rw [updateType, if_neg h, ih]

namespace IndexedType

/-- What one declaration adds to a type may be added by two. -/
theorem extend_extend {first second whole : Declaration}
    (hbases : whole.bases = first.bases ++ second.bases)
    (hmembers : whole.members = first.members ++ second.members) (type : IndexedType) :
    (type.extend first).extend second = type.extend whole := by
  unfold extend
  rw [hbases, hmembers, List.foldl_append, List.filterMap_append, List.append_assoc]

end IndexedType

namespace AssemblyDraft

variable {style : DiagramStyle} {assembly : String} {model : SymbolModel}

/-- Of a declaration only the head, the bases and the members are taken in. -/
theorem addOccurrence_congr {occurrence' occurrence : Occurrence}
    (head : occurrence'.SameHead occurrence)
    (hbases : occurrence'.declaration.bases = occurrence.declaration.bases)
    (hmembers : occurrence'.declaration.members = occurrence.declaration.members)
    (draft : AssemblyDraft) :
    draft.addOccurrence style assembly model occurrence'
      = draft.addOccurrence style assembly model occurrence := by
  unfold addOccurrence IndexedType.extend
  rw [head.qualifiedName_eq, head.ofOccurrence_eq, hbases, hmembers]

/-- The type is entered if either part has members, and then only once. -/
theorem registry_addOccurrence_parts {first second whole : Occurrence}
    (head : first.SameHead whole) (head' : second.SameHead whole)
    (hmembers : whole.declaration.members
      = first.declaration.members ++ second.declaration.members) (draft : AssemblyDraft) :
    ((draft.addOccurrence style assembly model first).addOccurrence style assembly model
        second).registry
      = (draft.addOccurrence style assembly model whole).registry := by
  unfold addOccurrence
  dsimp only
  rw [head.qualifiedName_eq, head'.qualifiedName_eq, hmembers]
  cases first.declaration.members with
  | nil => rfl
  | cons member rest =>
      cases second.declaration.members with
      | nil => rfl
      | cons member' rest' =>
          exact SymbolRegistry.add_add draft.registry assembly whole.qualifiedName model

theorem types_addOccurrence (draft : AssemblyDraft) (occurrence : Occurrence) :
    (draft.addOccurrence style assembly model occurrence).types
      = updateType (fun type => (type.extend occurrence.declaration).connect style
            (draft.addOccurrence style assembly model occurrence).registry assembly)
          (.ofOccurrence occurrence) draft.types :=
  rfl

/-- **A declaration may be taken in as two parts.** The connections that the first part gives the
type are replaced by those that the second one gives it. -/
theorem addOccurrence_parts {first second whole : Occurrence}
    (head : first.SameHead whole) (head' : second.SameHead whole)
    (hbases : whole.declaration.bases = first.declaration.bases ++ second.declaration.bases)
    (hmembers : whole.declaration.members
      = first.declaration.members ++ second.declaration.members) (draft : AssemblyDraft) :
    (draft.addOccurrence style assembly model first).addOccurrence style assembly model second
      = draft.addOccurrence style assembly model whole := by
  have htypes : ((draft.addOccurrence style assembly model first).addOccurrence style assembly
      model second).types = (draft.addOccurrence style assembly model whole).types := by
    rw [types_addOccurrence, types_addOccurrence, types_addOccurrence,
      registry_addOccurrence_parts head head' hmembers, head.ofOccurrence_eq,
      head'.ofOccurrence_eq, updateType_updateType]
    · congr 1
      funext type
      rw [← IndexedType.extend_extend hbases hmembers]
      rfl
    · exact fun _ => rfl
  show AssemblyDraft.mk _ _ _ = AssemblyDraft.mk _ _ _
  rw [AssemblyDraft.mk.injEq]
  exact ⟨htypes, registry_addOccurrence_parts head head' hmembers draft, rfl⟩

end AssemblyDraft

/-- Declarations in other words are taken in alike. -/
theorem Retold.foldl_addOccurrence {style : DiagramStyle} {assembly : String} {model : SymbolModel}
    {occurrences' occurrences : List Occurrence} (h : Retold occurrences' occurrences)
    (draft : AssemblyDraft) :
    occurrences'.foldl (AssemblyDraft.addOccurrence style assembly model) draft
      = occurrences.foldl (AssemblyDraft.addOccurrence style assembly model) draft := by
  induction h generalizing draft with
  | nil => rfl
  | same head bases members _ ih =>
      rw [List.foldl_cons, List.foldl_cons,
        AssemblyDraft.addOccurrence_congr head bases members]
      exact ih _
  | parts head head' bases members _ ih =>
      rw [List.foldl_cons, List.foldl_cons, List.foldl_cons,
        AssemblyDraft.addOccurrence_parts head head' bases members]
      exact ih _

/-! ## The names of a project -/

namespace Retold

variable {occurrences' occurrences : List Occurrence} {p : Occurrence → Bool}

/-- What is looked up by its head is found with the same head. -/
theorem map_find? {α : Type} {f : Occurrence → α} (h : Retold occurrences' occurrences)
    (hp : ∀ {occurrence' occurrence : Occurrence}, occurrence'.SameHead occurrence →
      p occurrence' = p occurrence)
    (hf : ∀ {occurrence' occurrence : Occurrence}, occurrence'.SameHead occurrence →
      f occurrence' = f occurrence) :
    (occurrences'.find? p).map f = (occurrences.find? p).map f := by
  induction h with
  | nil => rfl
  | same head _ _ _ ih =>
      rw [List.find?_cons, List.find?_cons, hp head]
      split
      · exact congrArg some (hf head)
      · exact ih
  | parts head head' _ _ _ ih =>
      rw [List.find?_cons, List.find?_cons, List.find?_cons, hp head, hp head']
      split
      · exact congrArg some (hf head)
      · exact ih

/-- The bases of what is looked up by its head are the same. -/
theorem flatMap_bases_filter (h : Retold occurrences' occurrences)
    (hp : ∀ {occurrence' occurrence : Occurrence}, occurrence'.SameHead occurrence →
      p occurrence' = p occurrence) :
    (occurrences'.filter p).flatMap (·.declaration.bases)
      = (occurrences.filter p).flatMap (·.declaration.bases) := by
  induction h with
  | nil => rfl
  | same head bases _ _ ih =>
      rw [List.filter_cons, List.filter_cons, hp head]
      split
      · rw [List.flatMap_cons, List.flatMap_cons, bases, ih]
      · exact ih
  | parts head head' bases _ _ ih =>
      rw [List.filter_cons, List.filter_cons, List.filter_cons, hp head, hp head']
      split
      · rw [List.flatMap_cons, List.flatMap_cons, List.flatMap_cons, bases, ih,
          List.append_assoc]
      · exact ih

end Retold

namespace DeclaredNames

variable {names' names : DeclaredNames} {occurrences' occurrences : List Occurrence}

/-- What names know of a type, read off the declarations that they were told. -/
theorem type?_of_declarations (h : names.declarations = occurrences.map Occurrence.known)
    (type : String) :
    names.type? type
      = ((occurrences.find? (·.qualifiedName == type)).map fun first =>
          (first.known.kind, first.scope)).map fun first =>
        { kind := first.1
          scope := first.2
          bases := Name.distinct ((occurrences.filter (·.qualifiedName == type)).flatMap
            (·.declaration.bases)) } := by
  rw [type?, h, List.filter_map, List.head?_map, List.flatMap_map, List.head?_filter,
    Option.map_map, Option.map_map]
  rfl

section

variable (h : Retold occurrences' occurrences)
  (hnames' : names'.declarations = occurrences'.map Occurrence.known)
  (hnames : names.declarations = occurrences.map Occurrence.known)

include h hnames' hnames

theorem type?_eq_of_retold (type : String) : names'.type? type = names.type? type := by
  have hsame : ∀ {occurrence' occurrence : Occurrence}, occurrence'.SameHead occurrence →
      (occurrence'.qualifiedName == type) = (occurrence.qualifiedName == type) :=
    fun head => by rw [head.qualifiedName_eq]
  have hfirst := h.map_find? (f := fun first => (first.known.kind, first.scope)) hsame
    fun head => Prod.ext head.kind_eq head.scope
  rw [type?_of_declarations hnames', type?_of_declarations hnames, hfirst,
    h.flatMap_bases_filter hsame]

theorem firstNamed?_eq_of_retold (identifier : String) :
    names'.firstNamed? identifier = names.firstNamed? identifier := by
  unfold firstNamed?
  rw [hnames', hnames, List.find?_map, List.find?_map, Option.map_map, Option.map_map]
  refine h.map_find? (fun head => ?_) Occurrence.SameHead.qualifiedName_eq
  exact congrArg (· == identifier) head.identifier

/-- **Names that were told in other words agree** about everything. -/
theorem agreesAt_of_retold (type : String) : names'.AgreesAt names type where
  known := type?_eq_of_retold h hnames' hnames type
  referents := by
    intro known _ entry _
    have hdeclares : names'.declares = names.declares := by
      funext type
      rw [declares_eq_isSome, declares_eq_isSome, type?_eq_of_retold h hnames' hnames]
    have hfirst : names'.firstNamed? = names.firstNamed? :=
      funext (firstNamed?_eq_of_retold h hnames' hnames)
    rw [referent?_congr hdeclares hfirst]

end

end DeclaredNames

/-! ## Things that change but keep their names -/

section

variable {α : Type} {name : α → String} {R : α → α → Prop}

/-- Sorting by name takes corresponding things to corresponding places. -/
theorem forall₂_sortedByName (hname : ∀ a b, R a b → name a = name b) {things' things : List α}
    (h : List.Forall₂ R things' things) :
    List.Forall₂ R (Text.sortedByName name things') (Text.sortedByName name things) := by
  obtain ⟨hlength, hpairs⟩ := List.forall₂_iff_zip.1 h
  -- sort the pairs of corresponding things by either name: the order is the same
  let firstName (pair : α × α) : String := name pair.1
  have hfst : Text.sortedByName name things'
      = (Text.sortedByName firstName (things'.zip things)).map Prod.fst := by
    rw [← Text.sortedByName_map_of_mem fun _ _ => rfl, List.map_fst_zip hlength.le]
  have hsnd : Text.sortedByName name things
      = (Text.sortedByName firstName (things'.zip things)).map Prod.snd := by
    rw [← Text.sortedByName_map_of_mem fun _ hpair => (hname _ _ (hpairs hpair)).symm,
      List.map_snd_zip hlength.ge]
  rw [hfst, hsnd, List.forall₂_map_left_iff, List.forall₂_map_right_iff, List.forall₂_same]
  exact fun _ hpair => hpairs ((rearranged_sortedByName firstName _).perm.mem_iff.1 hpair)

/-- Corresponding things that are taken in alike lead to the same. -/
theorem foldl_eq_of_forall₂ {β : Type} {step : β → α → β} {things' things : List α}
    (h : List.Forall₂ R things' things)
    (hstep : ∀ a b, R a b → ∀ state, step state a = step state b) (state : β) :
    things'.foldl step state = things.foldl step state := by
  induction h generalizing state with
  | nil => rfl
  | cons hab _ ih =>
      rw [List.foldl_cons, List.foldl_cons, hstep _ _ hab]
      exact ih _

end

section

variable {R : Project → Project → Prop}
  (hname : ∀ project' project, R project' project → project'.name = project.name)

include hname

theorem forall₂_firstOfEachName {projects' projects : List Project}
    (h : List.Forall₂ R projects' projects) :
    List.Forall₂ R (firstOfEachName projects') (firstOfEachName projects) := by
  induction h with
  | nil => exact .nil
  | cons hproject _ ih =>
      rw [firstOfEachName, firstOfEachName, hname _ _ hproject]
      refine .cons hproject (List.rel_filter (fun _ _ hother => ?_) ih)
      simp only [hname _ _ hother]

theorem forall₂_indexedProjects {projects' projects : List Project}
    (h : List.Forall₂ R projects' projects) :
    List.Forall₂ R (indexedProjects projects') (indexedProjects projects) := by
  refine forall₂_firstOfEachName hname
    (List.rel_filter (fun _ _ hproject => ?_) (forall₂_sortedByName hname h))
  simp only [hname _ _ hproject]

end

/-! ## Codebases with other trees -/

/-- Lists of declarations that stand for the same declarations, told in other words. -/
def Faithful (R : List Declaration → List Declaration → Prop) : Prop :=
  ∀ declarations' declarations, R declarations' declarations →
    Retold (Occurrence.all declarations') (Occurrence.all declarations)

/-- A source tree with another root for its own, or one that is left alone. -/
inductive SourceTree.Reworded (R : List Declaration → List Declaration → Prop) :
    Option SourceTree → Option SourceTree → Prop
  | kept (tree : Option SourceTree) : Reworded R tree tree
  | root (path : String) {declarations' declarations : List Declaration}
      (h : R declarations' declarations) :
      Reworded R (some ⟨path, some declarations'⟩) (some ⟨path, some declarations⟩)

/-- A document that differs from another in its tree alone. -/
structure Document.Reworded (R : List Declaration → List Declaration → Prop)
    (document' document : Document) : Prop where
  name_eq : document'.name = document.name
  model_eq : document'.model = document.model
  tree : SourceTree.Reworded R document'.tree document.tree

/-- A project that differs from another in the trees of its documents alone. -/
structure Project.Reworded (R : List Declaration → List Declaration → Prop)
    (project' project : Project) : Prop where
  name_eq : project'.name = project.name
  documents : List.Forall₂ (Document.Reworded R) project'.documents project.documents

/-- Codebases that differ in their trees alone. The documents keep their models. -/
def Codebase.Reworded (R : List Declaration → List Declaration → Prop)
    (projects' projects : List Project) : Prop :=
  List.Forall₂ (Project.Reworded R) projects' projects

/-- Codebases that have the same index and the same diagrams. -/
structure Codebase.Alike (style : DiagramStyle) (projects' projects : List Project) : Prop where
  index : Index.ofProjects style projects' = Index.ofProjects style projects
  diagrams : ∀ assembly name,
    (Provider.ofProjects projects').diagram style assembly name
      = (Provider.ofProjects projects).diagram style assembly name

section

variable {R : List Declaration → List Declaration → Prop} {style : DiagramStyle}

theorem Document.Reworded.addDocument_eq (hR : Faithful R) {document' document : Document}
    (h : document'.Reworded R document) (style : DiagramStyle) (assembly : String)
    (draft : AssemblyDraft) :
    draft.addDocument style assembly document' = draft.addDocument style assembly document := by
  obtain ⟨name', model', tree'⟩ := document'
  obtain ⟨name, model, tree⟩ := document
  obtain ⟨rfl, rfl, htree⟩ := h
  cases htree with
  | kept => rfl
  | root path h =>
      cases model' with
      | none => rfl
      | some model => exact (hR _ _ h).foldl_addOccurrence draft

theorem Project.Reworded.addProject_eq (hR : Faithful R) {project' project : Project}
    (h : project'.Reworded R project) (index : Index) :
    index.addProject style project' = index.addProject style project := by
  have hdocuments := forall₂_sortedByName (fun _ _ hdocument => hdocument.name_eq) h.documents
  have hdraft := foldl_eq_of_forall₂ hdocuments fun _ _ hdocument =>
    hdocument.addDocument_eq hR style project.name
  unfold Index.addProject
  dsimp only
  rw [h.name_eq, hdraft]

/-- **Codebases that say the same in other words** have the same index and the same diagrams. -/
theorem Codebase.alike_of_reworded (hR : Faithful R) {projects' projects : List Project}
    (h : Codebase.Reworded R projects' projects) (style : DiagramStyle) :
    Codebase.Alike style projects' projects := by
  have hindex : Index.ofProjects style projects' = Index.ofProjects style projects :=
    foldl_eq_of_forall₂ (forall₂_indexedProjects (fun _ _ hproject => hproject.name_eq) h)
      (fun _ _ hproject => hproject.addProject_eq hR) {}
  refine ⟨hindex, fun assembly name => ?_⟩
  show Except.ok ((Index.ofProjects style projects').diagram? style assembly name) = _
  rw [hindex]
  rfl

end

namespace Manifest

/-- A document that differs from another in its tree alone. -/
structure DocumentEntry.Reworded (R : List Declaration → List Declaration → Prop)
    (document' document : DocumentEntry) : Prop where
  name_eq : document'.name = document.name
  semantic_eq : document'.semantic = document.semantic
  tree : SourceTree.Reworded R document'.tree document.tree

/-- A project that differs from another in the trees of its documents alone. -/
structure ProjectEntry.Reworded (R : List Declaration → List Declaration → Prop)
    (project' project : ProjectEntry) : Prop where
  name_eq : project'.name = project.name
  symbols_eq : project'.symbols = project.symbols
  documents : List.Forall₂ (DocumentEntry.Reworded R) project'.documents project.documents

/-- Manifests that differ in their trees alone. -/
def Reworded (R : List Declaration → List Declaration → Prop) (manifest' manifest : Manifest) :
    Prop :=
  List.Forall₂ (ProjectEntry.Reworded R) manifest'.projects manifest.projects

variable {R : List Declaration → List Declaration → Prop}

theorem DocumentEntry.Reworded.retold_occurrences (hR : Faithful R)
    {document' document : DocumentEntry} (h : document'.Reworded R document) :
    Retold document'.occurrences document.occurrences := by
  obtain ⟨name', semantic', tree'⟩ := document'
  obtain ⟨name, semantic, tree⟩ := document
  have htree : SourceTree.Reworded R tree' tree := h.tree
  cases htree with
  | kept => exact .refl _
  | root path hroot => exact hR _ _ hroot

namespace ProjectEntry

theorem retold_flatMap (hR : Faithful R) {documents' documents : List DocumentEntry}
    (h : List.Forall₂ (DocumentEntry.Reworded R) documents' documents) :
    Retold (documents'.flatMap DocumentEntry.occurrences)
      (documents.flatMap DocumentEntry.occurrences) := by
  induction h with
  | nil => exact .nil
  | cons hdocument _ ih => exact (hdocument.retold_occurrences hR).append ih

namespace Reworded

variable {project' project : ProjectEntry} (hR : Faithful R) (h : project'.Reworded R project)

include hR h

/-- The names of the project answer as they did. -/
theorem symbol?_eq : project'.names.symbol? = project.names.symbol? := by
  funext type
  refine DeclaredNames.symbol?_eq_of_agreesAbout (.inr fun above _ => ?_) ?_
  · refine DeclaredNames.agreesAt_of_retold (retold_flatMap hR h.documents) ?_ ?_ above
    · rw [names_eq]
      rfl
    · rw [names_eq]
      rfl
  · rw [names_eq, names_eq, DeclaredNames.facts?, DeclaredNames.facts?, h.symbols_eq]

theorem toProject : project'.toProject.Reworded R project.toProject := by
  refine ⟨h.name_eq, ?_⟩
  unfold ProjectEntry.toProject
  dsimp only
  rw [h.symbol?_eq hR, List.forall₂_map_left_iff, List.forall₂_map_right_iff]
  exact h.documents.imp fun _ _ hdocument =>
    ⟨hdocument.name_eq, by rw [hdocument.semantic_eq], hdocument.tree⟩

end Reworded

end ProjectEntry

/-- **Manifests that say the same in other words** have the same index and the same diagrams. -/
theorem alike_of_reworded (hR : Faithful R) {manifest' manifest : Manifest}
    (h : manifest'.Reworded R manifest) (style : DiagramStyle) :
    Codebase.Alike style manifest'.toProjects manifest.toProjects := by
  refine Codebase.alike_of_reworded hR ?_ style
  unfold Codebase.Reworded toProjects
  rw [List.forall₂_map_left_iff, List.forall₂_map_right_iff]
  exact h.imp fun _ _ hproject => hproject.toProject hR

end Manifest

end ClassDiagram
