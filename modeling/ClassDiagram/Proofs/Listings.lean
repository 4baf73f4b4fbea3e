import ClassDiagram.Proofs.Browsing
import Mathlib.Data.List.Nodup

/-!
# What is listed can be chosen

The classes of an assembly are listed by their qualified names, and a class is chosen by a name. But
a name need not be a qualified one: a class may also be asked for by its identifier, and the
identifier of one class may be the qualified name of another. Still, every name in the list stands
for the one class that is listed by it (`Index.LeadsTo`), wherever it is asked for by this name.

This rests on two facts. No two types of an assembly have the same qualified name, and a type is
looked for by its identifier only if no type has the name for a qualified one.
-/

namespace ClassDiagram

/-! ## Lists of names -/

theorem Text.sortedNames_perm (names : List String) : (sortedNames names).Perm names :=
  List.mergeSort_perm names inAlphabeticalOrder

/-- Different names are listed strictly in order: the alphabetical order tells them apart. -/
theorem Text.sortedNames_ascending {names : List String} (h : names.Nodup) :
    (sortedNames names).Pairwise fun a b => alphabetical a b = .lt := by
  have hsorted : StablySorted alphabetical (sortedNames names) names := stablySorted_mergeSort names
  have hnodup : (sortedNames names).Nodup := hsorted.perm.nodup_iff.2 h
  exact pairwise_lt_of_ascending hsorted.ascending
    (hnodup.imp fun hne heq => hne (alphabetical_eq_iff.1 heq))

theorem Assembly.mem_listing_iff {assembly : Assembly} {name : String} :
    name ∈ assembly.listing ↔ ∃ type ∈ assembly.types, type.qualifiedName = name := by
  rw [listing, (Text.sortedNames_perm _).mem_iff, List.mem_map]

/-! ## What a listed name leads to -/

namespace Index

/-- The name stands for this type of the assembly and for no other: the type is found by it, drawn
by it, and on display under it in every browser in which it is chosen. -/
structure LeadsTo (style : DiagramStyle) (index : Index) (assembly : Assembly) (name : String)
    (type : IndexedType) : Prop where
  qualifiedName : type.qualifiedName = name
  only : ∀ other ∈ assembly.types, other.qualifiedName = name → other = type
  found : assembly.type? name = some type
  drawn : index.diagram? style assembly.name name
    = some (index.diagramOf style assembly.name type)
  /-- The browser has the assembly selected, with or without a class of it. -/
  chosen : ∀ browser : Browser, browser.style = style → browser.index = some index →
    browser.selection.assembly? = some assembly.name →
    (browser.chooseClass name).1.selection
        = .drawn assembly.name name (index.diagramOf style assembly.name type)
      ∧ (browser.chooseClass name).2 = some (index.diagramOf style assembly.name type)

variable {indexing : DiagramStyle} {projects : List Project} {assembly : Assembly}
  {type : IndexedType}

/-- The qualified name of a type leads to this type. -/
theorem leadsTo_qualifiedName (style : DiagramStyle)
    (hassembly : assembly ∈ (ofProjects indexing projects).assemblies)
    (htype : type ∈ assembly.types) :
    LeadsTo style (ofProjects indexing projects) assembly type.qualifiedName type := by
  have hnodup := nodup_qualifiedNames hassembly
  have hfound := assembly.type?_qualifiedName hnodup htype
  have hinIndex : (ofProjects indexing projects).type? assembly.name type.qualifiedName
      = some type := type?_eq_some.2 ⟨assembly, assembly?_of_mem hassembly, hfound⟩
  exact
    { qualifiedName := rfl
      only := fun other hother hname => List.inj_on_of_nodup_map hnodup hother htype hname
      found := hfound
      drawn := by
        rw [diagram?, hinIndex]
        rfl
      chosen := by
        rintro browser rfl hindex hselected
        exact Browser.chooseClass_of_classNamed?
          (Browser.classNamed?_eq_some.2 ⟨hindex, hselected, hinIndex⟩) }

/-- **What is listed can be chosen.** The listing of an assembly of a built index has the qualified
names of its types, each of them once and strictly in alphabetical order. Each name in it leads to
a type of the assembly, in whatever style diagrams are drawn. -/
theorem leadsTo_of_mem_listing {provider : Provider} {index : Index} (style : DiagramStyle)
    (hindex : ofProvider indexing provider = .ok index) (hassembly : assembly ∈ index.assemblies) :
    assembly.listing.Pairwise (fun a b => Text.alphabetical a b = .lt)
      ∧ assembly.listing.Perm (assembly.types.map (·.qualifiedName))
      ∧ index.listing? assembly.name = some assembly.listing
      ∧ ∀ name ∈ assembly.listing, ∃ type ∈ assembly.types,
          LeadsTo style index assembly name type := by
  obtain ⟨projects, rfl⟩ := exists_projects_of_ofProvider hindex
  have hnodup := nodup_qualifiedNames hassembly
  refine ⟨Text.sortedNames_ascending hnodup, Text.sortedNames_perm _, ?_, fun name hname => ?_⟩
  · rw [listing?, assembly?_of_mem hassembly]
    rfl
  · obtain ⟨type, htype, rfl⟩ := Assembly.mem_listing_iff.1 hname
    exact ⟨type, htype, leadsTo_qualifiedName style hassembly htype⟩

/-- Two dogs, one in a namespace. The other one comes later, and its qualified name is what both of
them have for an identifier. -/
def namesakes : Project where
  name := "Kennel"
  documents :=
    [{ name := "Dogs.cs"
       model := some fun _ => none
       tree := some
         { root := some
             [{ keyword := .forClass, identifier := "Dog", ownNamespace := some "Zoo" },
              { keyword := .forStruct, identifier := "Dog" }] } }]

def zooDog : IndexedType where
  qualifiedName := "Zoo.Dog"
  identifier := "Dog"
  kind := .plainClass
  scope := some "Zoo"

def bareDog : IndexedType where
  qualifiedName := "Dog"
  identifier := "Dog"
  kind := .struct

theorem assemblies_namesakes :
    (ofProjects {} [namesakes]).assemblies = [⟨"Kennel", [zooDog, bareDog]⟩] := by
  rw [assemblies_of_document (by decide) rfl]
  show [Assembly.mk "Kennel" [zooDog.withSortedMembers, bareDog.withSortedMembers]] = _
  simp [IndexedType.withSortedMembers, Member.sorted, zooDog, bareDog]

/-- The first dog answers to the name of the second one, which is found all the same. -/
theorem leadsTo_of_mem_listing_namesakes :
    ofProvider {} (.ofProjects [namesakes]) = .ok (ofProjects {} [namesakes])
      ∧ ⟨"Kennel", [zooDog, bareDog]⟩ ∈ (ofProjects {} [namesakes]).assemblies
      ∧ zooDog.isCalled "Dog" = true
      ∧ "Dog" ∈ (Assembly.mk "Kennel" [zooDog, bareDog]).listing
      ∧ LeadsTo {} (ofProjects {} [namesakes]) ⟨"Kennel", [zooDog, bareDog]⟩ "Dog" bareDog := by
  have hindex : ofProvider {} (.ofProjects [namesakes]) = .ok (ofProjects {} [namesakes]) := rfl
  have hassembly : Assembly.mk "Kennel" [zooDog, bareDog]
      ∈ (ofProjects {} [namesakes]).assemblies := by
    rw [assemblies_namesakes]
    exact List.mem_singleton_self _
  obtain ⟨-, hperm, -, hleads⟩ := leadsTo_of_mem_listing {} hindex hassembly
  have hname : "Dog" ∈ (Assembly.mk "Kennel" [zooDog, bareDog]).listing :=
    hperm.mem_iff.2 (by decide)
  obtain ⟨type, -, htype⟩ := hleads "Dog" hname
  obtain rfl := htype.only bareDog (by decide) rfl
  exact ⟨hindex, hassembly, by decide, hname, htype⟩

end Index

end ClassDiagram
