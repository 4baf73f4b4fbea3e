import ClassDiagram.Proofs.ProjectNames
import ClassDiagram.Proofs.Spelling

/-!
# What becomes of the entries of base lists

An entry of a base list is looked up, replaced by the full name of what it refers to, sorted
into base type and interfaces, freed of generic arguments, and left out if it repeats another
one or names a root type. This file says what is left of it in the connections of its type.

No entry is lost on the way (`Manifest.keeps_of_mem_declaredBases`): what is not an interface is
the base, unless it is a root type.

But an entry may lead to the wrong type. What is declared nowhere around a class is taken for the
first type with the same last segment, and this may be the class itself.
`Manifest.standsIn_of_base_eq` says that there is no other way for a class to become its own base,
as long as none of its bases is spelled like it.
-/

namespace ClassDiagram

namespace Connections

theorem mem_distinctReferred {entries : List String} {name : String} :
    name ∈ distinctReferred entries
      ↔ name ≠ "" ∧ ∃ entry ∈ entries, Name.referred entry = name := by
  rw [distinctReferred, Name.mem_distinct, List.mem_filter, List.mem_map, decide_eq_true_iff,
    and_comm]

variable {style : DiagramStyle} {symbol : Symbol}

/-- An interface of a symbol is one of the connections, unless nothing is left of its name. -/
theorem referred_mem_interfaces {name : String} (h : name ∈ symbol.interfaces)
    (hne : Name.referred name ≠ "") :
    Name.referred name ∈ (ofSymbol style symbol).interfaces :=
  mem_distinctReferred.2 ⟨hne, name, h, rfl⟩

/-- The base of a symbol is one of the connections, unless it is a root type or nothing is left
of its name. -/
theorem base_ofSymbol {name : String} (h : symbol.base = some name)
    (hne : Name.referred name ≠ "") :
    (ofSymbol style symbol).base = some (Name.referred name)
      ∨ style.isRoot (Name.referred name) = true ∧ (ofSymbol style symbol).base = none := by
  rw [ofSymbol, baseOf?, h, Option.map_some, Option.filter_some, decide_eq_true hne,
    Bool.true_and]
  cases hroot : style.isRoot (Name.referred name) with
  | true => exact .inr ⟨rfl, rfl⟩
  | false => exact .inl rfl

/-- The connections of a class with bases are those of its symbol. -/
theorem ofType_of_symbol? {registry : SymbolRegistry} {assembly : String} {type : IndexedType}
    (hclass : type.kind.isClass = true) (hbases : type.declaredBases ≠ [])
    (hsymbol : registry.symbol? assembly type.qualifiedName = some symbol) :
    ofType style registry assembly type = ofSymbol style symbol := by
  have hcondition : (type.kind.isClass && !type.declaredBases.isEmpty) = true := by
    rw [hclass, Bool.true_and]
    simpa using hbases
  rw [ofType, if_pos hcondition, hsymbol]

/-- What is left of an entry of a type's base lists: an interface, or else the base, unless it is
a root type. Nothing is left of an entry that names nothing. -/
def Keeps (connections : Connections) (style : DiagramStyle) (names : DeclaredNames)
    (known : KnownType) (entry : String) : Prop :=
  let name := Name.referred (names.fullName known.scope entry)
  name = "" ∨ name ∈ connections.interfaces
    ∨ names.parent? known = some entry
      ∧ (connections.base = some name ∨ style.isRoot name = true ∧ connections.base = none)

/-- Every entry is left in what the names infer. -/
theorem keeps_of_mem_bases {names : DeclaredNames} {type : String} {known : KnownType}
    (hknown : names.type? type = some known) {entry : String} (hentry : entry ∈ known.bases) :
    (ofSymbol style ⟨type, names.parentName known, names.interfacesAbove type known⟩).Keeps
      style names known entry := by
  unfold Keeps
  -- an entry that names nothing is the only one that leaves nothing
  by_cases hne : Name.referred (names.fullName known.scope entry) = ""
  · exact .inl hne
  right
  by_cases hparent : names.parent? known = some entry
  · right
    have hbase : names.parentName known = some (names.fullName known.scope entry) := by
      rw [DeclaredNames.parentName, hparent]
    exact ⟨hparent, base_ofSymbol hbase hne⟩
  · -- whatever is not the base is an interface of the type itself
    left
    have hname : names.Implements type (names.fullName known.scope entry) :=
      ⟨known, hknown, entry, hentry, Ne.symm hparent, rfl⟩
    have hmem := DeclaredNames.mem_interfacesAbove_of_implements hknown .refl hname
    exact referred_mem_interfaces hmem hne

end Connections

/-- **No entry of a base list is lost.** Take a class of a manifest's index that has a model and no
facts of its own. It has a symbol, and whatever its declarations name as bases is left among its
connections. -/
theorem Manifest.keeps_of_mem_declaredBases {style : DiagramStyle} {manifest : Manifest}
    {assembly : Assembly} {type : IndexedType}
    (hassembly : assembly ∈ (Index.ofProjects style manifest.toProjects).assemblies)
    (htype : type ∈ assembly.types) (hclass : type.kind.isClass = true)
    (hregistered : (Index.ofProjects style manifest.toProjects).registry.contains assembly.name
      type.qualifiedName = true) :
    ∃ project, manifest.projects.find? (·.name == assembly.name) = some project
      ∧ ((∀ facts, (type.qualifiedName, facts) ∉ project.symbols.entries) →
        ∃ known symbol, project.names.type? type.qualifiedName = some known
          ∧ (Index.ofProjects style manifest.toProjects).registry.symbol? assembly.name
            type.qualifiedName = some symbol
          ∧ ∀ entry ∈ type.declaredBases, entry ∈ known.bases
            ∧ (Connections.ofType style (Index.ofProjects style manifest.toProjects).registry
                assembly.name type).Keeps style project.names known entry) := by
  obtain ⟨project, known, hinferred⟩ := exists_inferred hassembly htype
  refine ⟨project, hinferred.project_eq, fun hfree => ?_⟩
  obtain ⟨symbol, hsymbol⟩ := hinferred.exists_symbol hregistered
  refine ⟨known, symbol, hinferred.known_eq, hsymbol, fun entry hentry => ?_⟩
  have hbase := hinferred.bases entry hentry
  refine ⟨hbase, ?_⟩
  rw [Connections.ofType_of_symbol? hclass (List.ne_nil_of_mem hentry) hsymbol,
    hinferred.symbol_eq hfree hsymbol]
  exact Connections.keeps_of_mem_bases hinferred.known_eq hbase

namespace Manifest

/-- A class in two parts. -/
def kennel : ProjectEntry where
  name := "Kennel"
  symbols := .ofList []
  documents := [
    { name := "Dog.cs"
      tree := some {
        root := some [
          { keyword := .forClass, identifier := "Dog", bases := ["Animal<T>"] },
          { keyword := .forClass, identifier := "Dog", bases := ["IPet", "Animal<T>"],
            members := [.property [] "Name" "string"] }] } }]

theorem keeps_of_mem_declaredBases_kennel :
    ∃ assembly type, assembly ∈ (Index.ofProjects {} (toProjects ⟨[kennel]⟩)).assemblies
      ∧ type ∈ assembly.types ∧ type.kind.isClass = true
      ∧ (Index.ofProjects {} (toProjects ⟨[kennel]⟩)).registry.contains assembly.name
        type.qualifiedName = true
      ∧ (∀ facts, (type.qualifiedName, facts) ∉ kennel.symbols.entries)
      ∧ type.declaredBases = ["Animal<T>", "IPet"]
      ∧ ∃ known, kennel.names.type? type.qualifiedName = some known
        ∧ ∀ entry ∈ ["Animal<T>", "IPet"], entry ∈ known.bases
          ∧ (Connections.ofType {} (Index.ofProjects {} (toProjects ⟨[kennel]⟩)).registry
              assembly.name type).Keeps {} kennel.names known entry := by
  have hproject : kennel.name ≠ "" := by decide
  obtain ⟨assembly, hassembly, type, htype, hname, -, hkind, hbases, hregistered⟩ :=
    exists_type_of_document {} kennel "Dog" rfl rfl hproject rfl rfl
  have hclass : type.kind.isClass = true := by
    rw [hkind]
    rfl
  obtain ⟨project, hfound, hkept⟩ := keeps_of_mem_declaredBases hassembly htype hclass hregistered
  obtain rfl : kennel = project := by
    rw [hname] at hfound
    exact Option.some.inj hfound
  have hfree : ∀ facts, (type.qualifiedName, facts) ∉ kennel.symbols.entries :=
    fun _ => List.not_mem_nil
  have hdeclared : type.declaredBases = ["Animal<T>", "IPet"] := hbases
  obtain ⟨known, _, hknown, _, hentries⟩ := hkept hfree
  rw [hdeclared] at hentries
  exact ⟨assembly, type, hassembly, htype, hclass, hregistered, hfree, hdeclared, known, hknown,
    hentries⟩

end Manifest

/-! ## Types that are their own base -/

namespace DeclaredNames

variable {names : DeclaredNames}

/-- What is written is declared neither in the namespace nor around it, and this type is the
first one that has its last segment for an identifier. -/
def StandsIn (names : DeclaredNames) (scope : Option String) (entry found : String) : Prop :=
  (Name.candidates scope (Name.referred entry)).find? names.declares = none
    ∧ names.firstNamed? (Name.lastSegment (Name.referred entry)) = some found

/-- An entry that leads to a type without spelling it leads there by its last segment alone. -/
theorem standsIn_of_fullName {scope : Option String} {identifier entry : String}
    (hspells : ¬ Name.Spells (Name.referred entry) (Name.inNamespace scope identifier))
    (hname : Name.referred (names.fullName scope entry) = Name.inNamespace scope identifier) :
    ∃ found, names.StandsIn scope entry found
      ∧ Name.referred (found ++ Name.generics (Text.trimmed entry))
        = Name.inNamespace scope identifier := by
  unfold fullName at hname
  cases hreferent : names.referent? scope entry with
  | none =>
      -- the entry as it is written is the name that is reported
      rw [hreferent] at hname
      dsimp only at hname
      rw [Name.referred_trimmed] at hname
      exact absurd (.inl hname) hspells
  | some found =>
      rw [hreferent] at hname
      unfold referent? at hreferent
      dsimp only at hreferent
      split at hreferent
      · exact absurd hreferent (by simp)
      next hne =>
        rcases Option.or_eq_some_iff.1 hreferent with hcandidate | hstandsIn
        · -- a type found in the namespace or around it is spelled by the entry
          have hmem := List.mem_of_find?_eq_some hcandidate
          exact absurd (Name.spells_of_mem_candidates hne hmem hname) hspells
        · exact ⟨found, hstandsIn, hname⟩

end DeclaredNames

/-- The base among the connections of a type is what is left of its symbol's base. -/
theorem Connections.exists_symbol_of_base {style : DiagramStyle} {registry : SymbolRegistry}
    {assembly : String} {type : IndexedType} {name : String}
    (h : (ofType style registry assembly type).base = some name) :
    ∃ symbol base, registry.symbol? assembly type.qualifiedName = some symbol
      ∧ symbol.base = some base ∧ Name.referred base = name ∧ style.isRoot name = false := by
  unfold ofType at h
  split at h
  · cases hsymbol : registry.symbol? assembly type.qualifiedName with
    | none =>
        rw [hsymbol] at h
        exact absurd h (by simp)
    | some symbol =>
        rw [hsymbol] at h
        obtain ⟨hbase, hkept⟩ := Option.filter_eq_some_iff.1 h
        obtain ⟨base, hbase, hname⟩ := Option.map_eq_some_iff.1 hbase
        refine ⟨symbol, base, rfl, hbase, hname, ?_⟩
        simpa using (Bool.and_eq_true_iff.1 hkept).2
  · exact absurd h (by simp)

namespace Manifest

/-- **When a type is its own base.** Take a type of a manifest's index that has no facts of its
own, and of which no base is spelled like the type itself. Its diagram can only show it as its own
base if it stands in for an entry that is declared nowhere around it, or if it is called like the
root type that a class without a base has, and is no root type. -/
theorem standsIn_of_base_eq {style : DiagramStyle} {manifest : Manifest} {assembly : Assembly}
    {type : IndexedType}
    (hassembly : assembly ∈ (Index.ofProjects style manifest.toProjects).assemblies)
    (htype : type ∈ assembly.types) :
    ∃ project, manifest.projects.find? (·.name == assembly.name) = some project
      ∧ ((∀ facts, (type.qualifiedName, facts) ∉ project.symbols.entries) →
        ∃ known, project.names.type? type.qualifiedName = some known
          ∧ ((∀ entry ∈ known.bases, ¬ Name.Spells (Name.referred entry) type.qualifiedName) →
            (Connections.ofType style (Index.ofProjects style manifest.toProjects).registry
              assembly.name type).base = some type.qualifiedName →
            (∃ entry found, project.names.parent? known = some entry
                ∧ project.names.StandsIn known.scope entry found
                ∧ Name.referred (found ++ Name.generics (Text.trimmed entry))
                  = type.qualifiedName)
              ∨ project.names.parent? known = none ∧ type.qualifiedName = "object"
                ∧ style.isRoot "object" = false)) := by
  obtain ⟨project, known, hinferred⟩ := exists_inferred hassembly htype
  refine ⟨project, hinferred.project_eq, fun hfree => ⟨known, hinferred.known_eq, ?_⟩⟩
  intro hspells hself
  obtain ⟨symbol, base, hsymbol, hbase, hname, hroot⟩ := Connections.exists_symbol_of_base hself
  rw [hinferred.symbol_eq hfree hsymbol, DeclaredNames.parentName] at hbase
  cases hparent : project.names.parent? known with
  | some entry =>
      left
      rw [hparent] at hbase
      obtain rfl := Option.some.inj hbase
      have hentry := DeclaredNames.mem_bases_of_parent? hparent
      obtain ⟨identifier, hidentifier⟩ := ProjectEntry.exists_identifier hinferred.known_eq
      have hspells := hspells entry hentry
      rw [hidentifier] at hspells hname ⊢
      obtain ⟨found, hstandsIn, hfound⟩ := DeclaredNames.standsIn_of_fullName hspells hname
      exact ⟨entry, found, rfl, hstandsIn, hfound⟩
  | none =>
      -- no entry is the base, so it is the root type that everything has
      right
      rw [hparent] at hbase
      dsimp only at hbase
      split at hbase
      · exact absurd hbase (by simp)
      · obtain rfl := Option.some.inj hbase
        have hobject : type.qualifiedName = "object" := hname.symm.trans (by decide)
        rw [hobject] at hroot
        exact ⟨rfl, hobject, hroot⟩

/-- The connections of a class of a project of one document. -/
theorem exists_connections_of_document (style : DiagramStyle) (project : ProjectEntry)
    (name : String) (known : KnownType) {document : DocumentEntry} {described : IndexedType}
    (hdocuments : project.documents = [document]) (hsemantic : document.semantic = true)
    (hproject : project.name ≠ "")
    (hdescribed : describe? document.occurrences name = some described)
    (hmembers : document.occurrences.any (fun occurrence =>
      !occurrence.declaration.members.isEmpty && occurrence.qualifiedName == name) = true)
    (hclass : described.kind.isClass = true) (hbases : described.declaredBases ≠ [])
    (hfree : ∀ facts, (name, facts) ∉ project.symbols.entries)
    (hknown : project.names.type? name = some known) :
    ∃ assembly type,
      assembly ∈ (Index.ofProjects style (toProjects ⟨[project]⟩)).assemblies
        ∧ type ∈ assembly.types ∧ assembly.name = project.name ∧ type.qualifiedName = name
        ∧ type.kind.isClass = true
        ∧ Connections.ofType style (Index.ofProjects style (toProjects ⟨[project]⟩)).registry
            assembly.name type
          = Connections.ofSymbol style
              ⟨name, project.names.parentName known, project.names.interfacesAbove name known⟩ := by
  obtain ⟨assembly, hassembly, type, htype, hname, rfl, hkind, hsameBases, hregistered⟩ :=
    exists_type_of_document style project name hdocuments hsemantic hproject hdescribed hmembers
  rw [← hkind] at hclass
  rw [← hsameBases] at hbases
  refine ⟨assembly, type, hassembly, htype, hname, rfl, hclass, ?_⟩
  obtain ⟨project', known', hinferred⟩ := exists_inferred hassembly htype
  obtain rfl : project = project' := by
    have hfound := hinferred.project_eq
    rw [hname, List.find?_cons_of_pos (by simp)] at hfound
    exact Option.some.inj hfound
  obtain rfl : known = known' := Option.some.inj (hknown.symm.trans hinferred.known_eq)
  obtain ⟨symbol, hsymbol⟩ := hinferred.exists_symbol hregistered
  rw [Connections.ofType_of_symbol? hclass hbases hsymbol, hinferred.symbol_eq hfree hsymbol]

/-- The base that a class of a project of one document is drawn with. -/
theorem exists_base_of_document (style : DiagramStyle) (project : ProjectEntry) (name : String)
    (known : KnownType) {document : DocumentEntry} {described : IndexedType}
    (hdocuments : project.documents = [document]) (hsemantic : document.semantic = true)
    (hproject : project.name ≠ "")
    (hdescribed : describe? document.occurrences name = some described)
    (hmembers : document.occurrences.any (fun occurrence =>
      !occurrence.declaration.members.isEmpty && occurrence.qualifiedName == name) = true)
    (hclass : described.kind.isClass = true) (hbases : described.declaredBases ≠ [])
    (hfree : ∀ facts, (name, facts) ∉ project.symbols.entries)
    (hknown : project.names.type? name = some known) :
    ∃ assembly type,
      assembly ∈ (Index.ofProjects style (toProjects ⟨[project]⟩)).assemblies
        ∧ type ∈ assembly.types ∧ assembly.name = project.name ∧ type.qualifiedName = name
        ∧ (Connections.ofType style (Index.ofProjects style (toProjects ⟨[project]⟩)).registry
            assembly.name type).base
          = Connections.baseOf? style ⟨name, project.names.parentName known, []⟩ := by
  obtain ⟨assembly, type, hassembly, htype, hname, hqualified, _, hconnections⟩ :=
    exists_connections_of_document style project name known hdocuments hsemantic hproject
      hdescribed hmembers hclass hbases hfree hknown
  refine ⟨assembly, type, hassembly, htype, hname, hqualified, ?_⟩
  rw [hconnections]
  rfl

/-- A class whose base has the same identifier in a namespace that nothing is declared in. -/
def impostor : ProjectEntry where
  name := "App"
  symbols := .ofList []
  documents := [
    { name := "Exception.cs"
      tree := some {
        root := some [
          { keyword := .forClass, identifier := "Exception", ownNamespace := some "App",
            bases := ["System.Exception"], members := [.property [] "Code" "int"] }] } }]

theorem exists_base_impostor :
    ∃ assembly type, assembly ∈ (Index.ofProjects {} (toProjects ⟨[impostor]⟩)).assemblies
      ∧ type ∈ assembly.types ∧ assembly.name = impostor.name
      ∧ type.qualifiedName = "App.Exception"
      ∧ (Connections.ofType {} (Index.ofProjects {} (toProjects ⟨[impostor]⟩)).registry
          assembly.name type).base = some "App.Exception" :=
  have hproject : impostor.name ≠ "" := by decide
  have hfree : ∀ facts, ("App.Exception", facts) ∉ impostor.symbols.entries :=
    fun _ => List.not_mem_nil
  exists_base_of_document {} impostor "App.Exception"
    ⟨.plainClass, some "App", ["System.Exception"]⟩ rfl rfl hproject rfl rfl rfl (by decide) hfree
    rfl

/-- A class called like the base of those that have none. -/
def core : ProjectEntry where
  name := "Core"
  symbols := .ofList []
  documents := [
    { name := "object.cs"
      tree := some {
        root := some [
          { keyword := .forClass, identifier := "object", bases := ["IThing"],
            members := [.property [] "Hash" "int"] }] } }]

/-- A class can be its own base although no base is spelled like it, and so can a class called
like the root type, in a style that has no root types. -/
theorem self_base_impostor :
    (∃ assembly type known,
      assembly ∈ (Index.ofProjects {} (toProjects ⟨[impostor]⟩)).assemblies
        ∧ type ∈ assembly.types ∧ assembly.name = impostor.name
        ∧ (∀ facts, (type.qualifiedName, facts) ∉ impostor.symbols.entries)
        ∧ impostor.names.type? type.qualifiedName = some known
        ∧ known.bases = ["System.Exception"]
        ∧ (∀ entry ∈ known.bases, ¬ Name.Spells (Name.referred entry) type.qualifiedName)
        ∧ (Connections.ofType {} (Index.ofProjects {} (toProjects ⟨[impostor]⟩)).registry
            assembly.name type).base = some type.qualifiedName)
      ∧ ∃ assembly type known,
        assembly ∈ (Index.ofProjects { roots := [] } (toProjects ⟨[core]⟩)).assemblies
          ∧ type ∈ assembly.types ∧ assembly.name = core.name
          ∧ (∀ facts, (type.qualifiedName, facts) ∉ core.symbols.entries)
          ∧ core.names.type? type.qualifiedName = some known
          ∧ known.bases = ["IThing"]
          ∧ (∀ entry ∈ known.bases, ¬ Name.Spells (Name.referred entry) type.qualifiedName)
          ∧ (Connections.ofType { roots := [] }
              (Index.ofProjects { roots := [] } (toProjects ⟨[core]⟩)).registry
              assembly.name type).base = some type.qualifiedName := by
  constructor
  · obtain ⟨assembly, type, hassembly, htype, hname, hqualified, hbase⟩ := exists_base_impostor
    -- the last segment is the same, but the qualifier is another one
    have hspells : ∀ entry ∈ ["System.Exception"],
        ¬ Name.Spells (Name.referred entry) "App.Exception" := by decide
    rw [← hqualified] at hspells hbase
    refine ⟨assembly, type, ⟨.plainClass, some "App", ["System.Exception"]⟩, hassembly, htype,
      hname, fun _ => List.not_mem_nil, ?_, rfl, hspells, hbase⟩
    rw [hqualified]
    rfl
  · have hproject : core.name ≠ "" := by decide
    have hfree : ∀ facts, ("object", facts) ∉ core.symbols.entries := fun _ => List.not_mem_nil
    obtain ⟨assembly, type, hassembly, htype, hname, hqualified, hbase⟩ :=
      exists_base_of_document { roots := [] } core "object" ⟨.plainClass, none, ["IThing"]⟩ rfl
        rfl hproject rfl rfl rfl (by decide) hfree rfl
    have hspells : ∀ entry ∈ ["IThing"], ¬ Name.Spells (Name.referred entry) "object" := by decide
    rw [← hqualified] at hspells
    refine ⟨assembly, type, ⟨.plainClass, none, ["IThing"]⟩, hassembly, htype, hname,
      fun _ => List.not_mem_nil, ?_, rfl, hspells, ?_⟩
    · rw [hqualified]
      rfl
    · rw [hbase, hqualified]
      rfl

theorem standsIn_of_base_eq_impostor :
    ∃ assembly type known, assembly ∈ (Index.ofProjects {} (toProjects ⟨[impostor]⟩)).assemblies
      ∧ type ∈ assembly.types ∧ impostor.names.type? type.qualifiedName = some known
      ∧ (∀ entry ∈ known.bases, ¬ Name.Spells (Name.referred entry) type.qualifiedName)
      ∧ (Connections.ofType {} (Index.ofProjects {} (toProjects ⟨[impostor]⟩)).registry
          assembly.name type).base = some type.qualifiedName
      ∧ ∃ entry found, impostor.names.parent? known = some entry
        ∧ impostor.names.StandsIn known.scope entry found
        ∧ Name.referred (found ++ Name.generics (Text.trimmed entry)) = type.qualifiedName := by
  obtain ⟨assembly, type, hassembly, htype, hname, hqualified, hbase⟩ := exists_base_impostor
  obtain ⟨project, hfound, hself⟩ := standsIn_of_base_eq hassembly htype
  obtain rfl : impostor = project := by
    rw [hname] at hfound
    exact Option.some.inj hfound
  obtain ⟨known, hknown, hself⟩ := hself fun _ => List.not_mem_nil
  have hspells : ∀ entry ∈ known.bases,
      ¬ Name.Spells (Name.referred entry) type.qualifiedName := by
    rw [hqualified] at hknown ⊢
    obtain rfl := Option.some.inj hknown
    decide
  rw [← hqualified] at hbase
  refine ⟨assembly, type, known, hassembly, htype, hknown, hspells, hbase, ?_⟩
  refine (hself hspells hbase).resolve_right fun hobject => ?_
  rw [hqualified] at hobject
  exact absurd hobject.2.1 (by decide)

end Manifest

end ClassDiagram
