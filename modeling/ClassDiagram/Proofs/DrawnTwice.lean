import ClassDiagram.Proofs.BaseEntries

/-!
# Names that are drawn as base and as interface

A class has one base entry, and whatever else its base lists name is an interface. This is decided
by the entries as they are written, while a diagram shows what is left of them after they were
looked up and freed of generic arguments. So one name can be drawn both as the base and as an
interface of a class.

`Manifest.named_again_of_drawsTwice` lists the ways in which this comes about: the class names its
base a second time in other words, or a type above it has the name for an interface.
-/

namespace ClassDiagram

namespace Connections

/-- The name is drawn both as the base and as an interface. -/
def DrawsTwice (connections : Connections) (name : String) : Prop :=
  connections.base = some name ∧ name ∈ connections.interfaces

/-- An interface among the connections of a type is what is left of an interface of its symbol. -/
theorem exists_symbol_of_mem_interfaces {style : DiagramStyle} {registry : SymbolRegistry}
    {assembly : String} {type : IndexedType} {name : String}
    (h : name ∈ (ofType style registry assembly type).interfaces) :
    ∃ symbol, registry.symbol? assembly type.qualifiedName = some symbol
      ∧ ∃ full ∈ symbol.interfaces, Name.referred full = name := by
  unfold ofType at h
  split at h
  · cases hsymbol : registry.symbol? assembly type.qualifiedName with
    | none =>
        rw [hsymbol] at h
        exact absurd h List.not_mem_nil
    | some symbol =>
        rw [hsymbol] at h
        exact ⟨symbol, rfl, (mem_distinctReferred.1 h).2⟩
  · exact absurd h List.not_mem_nil

end Connections

namespace DeclaredNames

/-- The name under which an entry of a type's base lists is drawn. -/
def drawnName (names : DeclaredNames) (type : KnownType) (entry : String) : String :=
  Name.referred (names.fullName type.scope entry)

/-- An entry of the type's base lists, and not its base entry, is drawn under this name. -/
def NamesBesideBase (names : DeclaredNames) (type : KnownType) (name : String) : Prop :=
  ∃ entry ∈ type.bases, some entry ≠ names.parent? type ∧ names.drawnName type entry = name

/-- The base entry is drawn under this name, and so is another entry of the same base lists. -/
def NamesBaseAgain (names : DeclaredNames) (type : KnownType) (name : String) : Prop :=
  ∃ base, names.parent? type = some base ∧ names.drawnName type base = name
    ∧ ∃ entry ∈ type.bases, entry ≠ base ∧ names.drawnName type entry = name

/-- A declared type above this one has the name beside its base. -/
def NamedAbove (names : DeclaredNames) (type name : String) : Prop :=
  ∃ above known, Relation.TransGen names.Extends type above
    ∧ names.type? above = some known ∧ names.NamesBesideBase known name

variable {names : DeclaredNames} {type : String} {known : KnownType}

/-- What is drawn as an interface is named by the type itself or by a type above it. -/
theorem named_of_mem_interfacesAbove (hknown : names.type? type = some known) {full : String}
    (h : full ∈ names.interfacesAbove type known) :
    names.NamesBesideBase known (Name.referred full)
      ∨ names.NamedAbove type (Name.referred full) := by
  obtain ⟨above, habove, knownAbove, hknownAbove, entry, hentry, hne, rfl⟩ :=
    implements_of_mem_interfacesAbove hknown h
  have hnames : names.NamesBesideBase knownAbove
      (Name.referred (names.fullName knownAbove.scope entry)) := ⟨entry, hentry, hne, rfl⟩
  -- the walk starts at the type itself, and all further types are above it
  rcases Relation.reflTransGen_iff_eq_or_transGen.1 habove with rfl | habove
  · rw [hknown] at hknownAbove
    obtain rfl := Option.some.inj hknownAbove
    exact .inl hnames
  · exact .inr ⟨above, knownAbove, habove, hknownAbove, hnames⟩

/-- The base of a type is its base entry or, if it has none, the root type. -/
theorem parentName_eq_some {full : String} (h : names.parentName known = some full) :
    (∃ base, names.parent? known = some base ∧ names.fullName known.scope base = full)
      ∨ names.parent? known = none ∧ full = "object" := by
  unfold parentName at h
  cases hparent : names.parent? known with
  | some base =>
      rw [hparent] at h
      exact .inl ⟨base, rfl, Option.some.inj h⟩
  | none =>
      rw [hparent] at h
      dsimp only at h
      split at h
      · exact absurd h (by simp)
      · exact .inr ⟨rfl, (Option.some.inj h).symm⟩

/-- What a type or a type above it has beside its base is drawn as an interface. -/
theorem mem_interfaces_of_implements {style : DiagramStyle} {above full name : String}
    (hknown : names.type? type = some known)
    (habove : Relation.ReflTransGen names.Extends type above)
    (hfull : names.Implements above full) (hname : Name.referred full = name) (hne : name ≠ "") :
    name ∈ (Connections.ofSymbol style
      ⟨type, names.parentName known, names.interfacesAbove type known⟩).interfaces := by
  have hmem := mem_interfacesAbove_of_implements hknown habove hfull
  exact Connections.mem_distinctReferred.2 ⟨hne, full, hmem, hname⟩

end DeclaredNames

namespace Manifest

/-- **When a name is drawn twice.** Take a type of a manifest's index that has no facts of its
own. If its diagram shows one name both as the base and as an interface, then the type names its
base again, or a declared type above it has this name beside its own base, or the type names no
base, and the name is that of the root type. -/
theorem named_again_of_drawsTwice {style : DiagramStyle} {manifest : Manifest}
    {assembly : Assembly} {type : IndexedType}
    (hassembly : assembly ∈ (Index.ofProjects style manifest.toProjects).assemblies)
    (htype : type ∈ assembly.types) :
    ∃ project, manifest.projects.find? (·.name == assembly.name) = some project
      ∧ ((∀ facts, (type.qualifiedName, facts) ∉ project.symbols.entries) →
        ∃ known, project.names.type? type.qualifiedName = some known
          ∧ ∀ name, (Connections.ofType style
              (Index.ofProjects style manifest.toProjects).registry assembly.name
              type).DrawsTwice name →
            project.names.NamesBaseAgain known name
              ∨ project.names.NamedAbove type.qualifiedName name
              ∨ project.names.parent? known = none ∧ name = "object"
                ∧ style.isRoot "object" = false
                ∧ project.names.NamesBesideBase known "object") := by
  obtain ⟨project, known, hinferred⟩ := exists_inferred hassembly htype
  refine ⟨project, hinferred.project_eq, fun hfree => ⟨known, hinferred.known_eq, ?_⟩⟩
  rintro name ⟨hbase, hinterface⟩
  obtain ⟨symbol, full, hsymbol, hfull, hname, hroot⟩ := Connections.exists_symbol_of_base hbase
  obtain ⟨symbol', hsymbol', other, hother, hsame⟩ :=
    Connections.exists_symbol_of_mem_interfaces hinterface
  obtain rfl : symbol = symbol' := Option.some.inj (hsymbol.symm.trans hsymbol')
  rw [hinferred.symbol_eq hfree hsymbol] at hfull hother
  have hnamed := DeclaredNames.named_of_mem_interfacesAbove hinferred.known_eq hother
  rw [hsame] at hnamed
  rcases hnamed with hown | habove
  · rcases DeclaredNames.parentName_eq_some hfull with ⟨base, hparent, rfl⟩ | ⟨hparent, rfl⟩
    · -- the type itself has an entry of this name, and its base entry is another one
      obtain ⟨entry, hentry, hne, hdrawn⟩ := hown
      have hne : entry ≠ base := fun heq => hne (heq ▸ hparent.symm)
      exact .inl ⟨base, hparent, hname, entry, hentry, hne, hdrawn⟩
    · have hobject : name = "object" := hname.symm.trans (by decide)
      rw [hobject] at hroot hown
      exact .inr (.inr ⟨hparent, hobject, hroot, hown⟩)
  · exact .inr (.inl habove)

/-- A class with an undeclared base. The interface that it has is declared to extend this base. -/
def walkers : ProjectEntry where
  name := "Zoo"
  symbols := .ofList []
  documents := [
    { name := "Dog.cs"
      tree := some {
        root := some [
          { keyword := .forClass, identifier := "Dog", bases := ["Walker", "IPet"],
            members := [.property [] "Name" "string"] },
          { keyword := .forInterface, identifier := "IPet", bases := ["Walker"] }] } }]

theorem exists_drawsTwice_walkers :
    ∃ assembly type, assembly ∈ (Index.ofProjects {} (toProjects ⟨[walkers]⟩)).assemblies
      ∧ type ∈ assembly.types ∧ assembly.name = walkers.name ∧ type.qualifiedName = "Dog"
      ∧ type.kind.isClass = true
      ∧ (Connections.ofType {} (Index.ofProjects {} (toProjects ⟨[walkers]⟩)).registry
          assembly.name type).DrawsTwice "Walker" := by
  have hproject : walkers.name ≠ "" := by decide
  have hfree : ∀ facts, ("Dog", facts) ∉ walkers.symbols.entries := fun _ => List.not_mem_nil
  have hextends : walkers.names.Extends "Dog" "IPet" :=
    ⟨⟨.plainClass, none, ["Walker", "IPet"]⟩, rfl, "IPet", by decide, by decide⟩
  have hpet : walkers.names.Implements "IPet" "Walker" :=
    ⟨⟨.interface, none, ["Walker"]⟩, rfl, "Walker", by decide, by decide, by decide⟩
  obtain ⟨assembly, type, hassembly, htype, hname, hqualified, hclass, hconnections⟩ :=
    exists_connections_of_document {} walkers "Dog" ⟨.plainClass, none, ["Walker", "IPet"]⟩ rfl rfl
      hproject rfl rfl rfl (by decide) hfree rfl
  refine ⟨assembly, type, hassembly, htype, hname, hqualified, hclass, ?_⟩
  rw [hconnections]
  refine ⟨rfl, ?_⟩
  exact DeclaredNames.mem_interfaces_of_implements rfl (.single hextends) hpet (by decide)
    (by decide)

/-- A class in two parts, which name the same base in two ways. -/
def respelled : ProjectEntry where
  name := "Zoo"
  symbols := .ofList []
  documents := [
    { name := "Dog.cs"
      tree := some {
        root := some [
          { keyword := .forClass, identifier := "Animal", ownNamespace := some "Zoo" },
          { keyword := .forClass, identifier := "Dog", ownNamespace := some "Zoo",
            bases := ["Animal"], members := [.property [] "Name" "string"] },
          { keyword := .forClass, identifier := "Dog", ownNamespace := some "Zoo",
            bases := ["Zoo.Animal"] }] } }]

theorem exists_drawsTwice_respelled :
    ∃ assembly type, assembly ∈ (Index.ofProjects {} (toProjects ⟨[respelled]⟩)).assemblies
      ∧ type ∈ assembly.types ∧ assembly.name = respelled.name ∧ type.qualifiedName = "Zoo.Dog"
      ∧ type.kind.isClass = true
      ∧ (Connections.ofType {} (Index.ofProjects {} (toProjects ⟨[respelled]⟩)).registry
          assembly.name type).DrawsTwice "Zoo.Animal" := by
  have hproject : respelled.name ≠ "" := by decide
  have hfree : ∀ facts, ("Zoo.Dog", facts) ∉ respelled.symbols.entries :=
    fun _ => List.not_mem_nil
  have hdog : respelled.names.Implements "Zoo.Dog" "Zoo.Animal" :=
    ⟨⟨.plainClass, some "Zoo", ["Animal", "Zoo.Animal"]⟩, rfl, "Zoo.Animal", by decide, by decide,
      by decide⟩
  obtain ⟨assembly, type, hassembly, htype, hname, hqualified, hclass, hconnections⟩ :=
    exists_connections_of_document {} respelled "Zoo.Dog"
      ⟨.plainClass, some "Zoo", ["Animal", "Zoo.Animal"]⟩ rfl rfl hproject rfl rfl rfl (by decide)
      hfree rfl
  refine ⟨assembly, type, hassembly, htype, hname, hqualified, hclass, ?_⟩
  rw [hconnections]
  refine ⟨rfl, ?_⟩
  exact DeclaredNames.mem_interfaces_of_implements rfl .refl hdog (by decide) (by decide)

/-- A class may be drawn with one name as its base and as an interface: the name of an interface
that is taken for its base, or that of a base which is written in two ways. -/
theorem drawsTwice_walkers_respelled :
    (∃ assembly type, assembly ∈ (Index.ofProjects {} (toProjects ⟨[walkers]⟩)).assemblies
      ∧ type ∈ assembly.types ∧ type.kind.isClass = true ∧ walkers.symbols.entries = []
      ∧ ∃ name, (Connections.ofType {}
          (Index.ofProjects {} (toProjects ⟨[walkers]⟩)).registry assembly.name
          type).DrawsTwice name)
      ∧ ∃ assembly type, assembly ∈ (Index.ofProjects {} (toProjects ⟨[respelled]⟩)).assemblies
        ∧ type ∈ assembly.types ∧ type.kind.isClass = true ∧ respelled.symbols.entries = []
        ∧ ∃ name, (Connections.ofType {}
            (Index.ofProjects {} (toProjects ⟨[respelled]⟩)).registry assembly.name
            type).DrawsTwice name := by
  constructor
  · obtain ⟨assembly, type, hassembly, htype, -, -, hclass, htwice⟩ := exists_drawsTwice_walkers
    exact ⟨assembly, type, hassembly, htype, hclass, rfl, "Walker", htwice⟩
  · obtain ⟨assembly, type, hassembly, htype, -, -, hclass, htwice⟩ := exists_drawsTwice_respelled
    exact ⟨assembly, type, hassembly, htype, hclass, rfl, "Zoo.Animal", htwice⟩

theorem named_again_of_drawsTwice_walkers :
    ∃ assembly type, assembly ∈ (Index.ofProjects {} (toProjects ⟨[walkers]⟩)).assemblies
      ∧ type ∈ assembly.types
      ∧ (∀ facts, (type.qualifiedName, facts) ∉ walkers.symbols.entries)
      ∧ (Connections.ofType {} (Index.ofProjects {} (toProjects ⟨[walkers]⟩)).registry
          assembly.name type).DrawsTwice "Walker"
      ∧ walkers.names.NamedAbove type.qualifiedName "Walker" := by
  obtain ⟨assembly, type, hassembly, htype, hname, hqualified, -, htwice⟩ :=
    exists_drawsTwice_walkers
  obtain ⟨project, hfound, hnamed⟩ := named_again_of_drawsTwice hassembly htype
  obtain rfl : walkers = project := by
    rw [hname] at hfound
    exact Option.some.inj hfound
  have hfree : ∀ facts, (type.qualifiedName, facts) ∉ walkers.symbols.entries :=
    fun _ => List.not_mem_nil
  obtain ⟨known, hknown, hways⟩ := hnamed hfree
  rw [hqualified] at hknown
  obtain rfl : ⟨.plainClass, none, ["Walker", "IPet"]⟩ = known := Option.some.inj hknown
  refine ⟨assembly, type, hassembly, htype, hfree, htwice, ?_⟩
  rcases hways "Walker" htwice with hagain | habove | ⟨-, hobject, -⟩
  · -- the other entry of the class has another name
    obtain ⟨base, hparent, -, entry, hentry, hne, hdrawn⟩ := hagain
    obtain rfl : "Walker" = base := Option.some.inj hparent
    have hother : ∀ entry ∈ ["Walker", "IPet"], entry ≠ "Walker" →
        walkers.names.drawnName ⟨.plainClass, none, ["Walker", "IPet"]⟩ entry ≠ "Walker" := by
      decide
    exact absurd hdrawn (hother entry hentry hne)
  · exact habove
  · exact absurd hobject (by decide)

end Manifest

end ClassDiagram
