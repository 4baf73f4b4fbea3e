import ClassDiagram.Proofs.Registrations

/-!
# What a style decides

A style is asked twice: when an index is built, for the base types that are written down, and when
a diagram is drawn, for these and for the label. All the rest of an index and of its diagrams is
the same in every style (`Index.ofProvider_sameUpToStyle`).

The base type itself is resolved without any style (`Connections.resolvedBase?`), and a style only
says whether it is shown. So an index in one style is an index in another one, connected anew
(`Index.connected_ofProjects`), and whatever two styles make of a type comes from the same resolved
base.
-/

namespace ClassDiagram

/-! ## Bases in two styles -/

/-- What two styles show of a base. It is shown unless it is a root type, so one of them shows it and
the other one does not only if it is a root type in exactly one of them. -/
inductive DiagramStyle.ShowBase (style₁ style₂ : DiagramStyle) :
    Option String → Option String → Option String → Prop where
  | unresolved : ShowBase style₁ style₂ none none none
  | both {base : String} : style₁.isRoot base = false → style₂.isRoot base = false →
      ShowBase style₁ style₂ (some base) (some base) (some base)
  | neither {base : String} : style₁.isRoot base = true → style₂.isRoot base = true →
      ShowBase style₁ style₂ (some base) none none
  | first {base : String} : style₁.isRoot base = false → style₂.isRoot base = true →
      ShowBase style₁ style₂ (some base) (some base) none
  | second {base : String} : style₁.isRoot base = true → style₂.isRoot base = false →
      ShowBase style₁ style₂ (some base) none (some base)

theorem DiagramStyle.showBase_filter (style₁ style₂ : DiagramStyle) (resolved : Option String) :
    ShowBase style₁ style₂ resolved (resolved.filter (!style₁.isRoot ·))
      (resolved.filter (!style₂.isRoot ·)) := by
  cases resolved with
  | none => exact .unresolved
  | some base =>
      rw [Option.filter_some, Option.filter_some]
      cases h₁ : style₁.isRoot base with
      | false =>
          cases h₂ : style₂.isRoot base with
          | false => exact .both h₁ h₂
          | true => exact .first h₁ h₂
      | true =>
          cases h₂ : style₂.isRoot base with
          | false => exact .second h₁ h₂
          | true => exact .neither h₁ h₂

namespace Connections

variable {style : DiagramStyle} {registry : SymbolRegistry} {assembly : String}
  {type : IndexedType}

/-- The base type that is resolved for a type: what the base of its symbol refers to. Only classes
that declare bases have one. -/
def resolvedBase? (registry : SymbolRegistry) (assembly : String) (type : IndexedType) :
    Option String :=
  if type.kind.isClass && !type.declaredBases.isEmpty then
    ((registry.symbol? assembly type.qualifiedName).bind fun symbol =>
      symbol.base.map Name.referred).filter (· ≠ "")
  else none

/-- A style shows the resolved base, unless this is one of its roots. -/
theorem base_ofType :
    (ofType style registry assembly type).base
      = (resolvedBase? registry assembly type).filter (!style.isRoot ·) := by
  unfold ofType resolvedBase?
  split
  · cases registry.symbol? assembly type.qualifiedName with
    | none => rfl
    | some symbol =>
        show (symbol.base.map Name.referred).filter _
          = ((symbol.base.map Name.referred).filter _).filter _
        rw [Option.filter_filter]
  · rfl

/-- The interfaces are the same in every style. -/
theorem interfaces_ofType (style style' : DiagramStyle) :
    (ofType style registry assembly type).interfaces
      = (ofType style' registry assembly type).interfaces := by
  unfold ofType
  split
  · cases registry.symbol? assembly type.qualifiedName with
    | none => rfl
    | some symbol => rfl
  · rfl

end Connections

/-! ## Indexes in two styles -/

/-- What two styles make of a type. They agree about all of it but the base that its diagram shows,
and this comes from the same resolved base. -/
structure IndexedType.SameUpToStyle (style₁ style₂ : DiagramStyle) (resolved : Option String)
    (type₁ type₂ : IndexedType) : Prop where
  rest : { type₁ with baseRef := none } = { type₂ with baseRef := none }
  base : style₁.ShowBase style₂ resolved type₁.baseRef type₂.baseRef

/-- Two diagrams of a type. They are drawings of the same kind, with the same interfaces and the
same rows. The nodes are labelled each in its own style, and the lines to the base come from the
same resolved base. -/
def Drawing.SameUpToStyle (style₁ style₂ : DiagramStyle) (assembly : String)
    (resolved : Option String) (type : IndexedType) (text₁ text₂ : String) : Prop :=
  ∃ kind interfaces rows base₁ base₂, style₁.ShowBase style₂ resolved base₁ base₂
    ∧ text₁ = (Drawing.mk kind (style₁.labels.label assembly type) ⟨base₁, interfaces⟩ rows).text
    ∧ text₂ = (Drawing.mk kind (style₂.labels.label assembly type) ⟨base₂, interfaces⟩ rows).text

/-- What two styles make of a codebase. -/
structure Index.SameUpToStyle (style₁ style₂ : DiagramStyle) (index₁ index₂ : Index) : Prop where
  registry : index₁.registry = index₂.registry
  skipped : index₁.skipped = index₂.skipped
  size : index₁.size = index₂.size
  /-- The assemblies have the same names and the same types, apart from the bases of these. -/
  assemblies : List.Forall₂ (fun assembly₁ assembly₂ => assembly₁.name = assembly₂.name
      ∧ List.Forall₂ (fun type₁ type₂ => IndexedType.SameUpToStyle style₁ style₂
            (Connections.resolvedBase? index₁.registry assembly₁.name type₁) type₁ type₂)
          assembly₁.types assembly₂.types)
    index₁.assemblies index₂.assemblies
  /-- A name leads to a type in both indexes or in none of them, and the diagrams of the two types
  differ in label and line to the base at most. -/
  diagrams : ∀ assembly name,
    index₁.diagram? style₁ assembly name = none ∧ index₂.diagram? style₂ assembly name = none
      ∨ ∃ type text₁ text₂, index₁.type? assembly name = some type
          ∧ index₁.diagram? style₁ assembly name = some text₁
          ∧ index₂.diagram? style₂ assembly name = some text₂
          ∧ Drawing.SameUpToStyle style₁ style₂ assembly
              (Connections.resolvedBase? index₁.registry assembly type) type text₁ text₂

/-- The assembly with its types connected anew, as a style has it. -/
def Assembly.connected (style : DiagramStyle) (registry : SymbolRegistry) (assembly : Assembly) :
    Assembly :=
  { assembly with types := assembly.types.map (.connect style registry assembly.name) }

/-- The index with all types connected anew, as a style has it. -/
def Index.connected (style : DiagramStyle) (index : Index) : Index :=
  { index with assemblies := index.assemblies.map (.connected style index.registry) }

theorem Project.connected_assembly {style style' : DiagramStyle} {registry : SymbolRegistry}
    (project : Project) :
    (project.assembly style registry).connected style' registry
      = project.assembly style' registry := by
  unfold Assembly.connected assembly describedTypes
  simp only [List.map_filterMap, Option.map_map]
  rfl

namespace Index

variable {style style₁ style₂ : DiagramStyle}

theorem registry_ofProjects_eq (projects : List Project) :
    (ofProjects style₁ projects).registry = (ofProjects style₂ projects).registry := by
  have h : (ofProjects style₁ projects).registry.registrations
      = (ofProjects style₂ projects).registry.registrations := by
    rw [registrations_ofProjects, registrations_ofProjects]
  exact congrArg SymbolRegistry.mk h

/-- **An index in one style, connected anew, is the index in the other style.** -/
theorem connected_ofProjects (projects : List Project) :
    (ofProjects style₁ projects).connected style₂ = ofProjects style₂ projects := by
  have hregistry := @registry_ofProjects_eq style₁ style₂ projects
  have hskipped : (ofProjects style₁ projects).skipped = (ofProjects style₂ projects).skipped := by
    rw [(contents_ofProjects projects).skipped, (contents_ofProjects projects).skipped]
  have hassemblies : (ofProjects style₁ projects).assemblies.map
        (.connected style₂ (ofProjects style₁ projects).registry)
      = (ofProjects style₂ projects).assemblies := by
    rw [ofProjects_assemblies, ofProjects_assemblies, List.map_map, hregistry]
    exact List.map_congr_left fun project _ => project.connected_assembly
  show Index.mk _ (ofProjects style₁ projects).registry (ofProjects style₁ projects).skipped = _
  rw [hassemblies, hregistry, hskipped]

end Index

/-! ## Types and diagrams in two styles -/

namespace Index

variable {style style₁ style₂ : DiagramStyle} {projects : List Project} {assembly : Assembly}
  {type : IndexedType}

/-- A type and the same type in the other style. -/
theorem sameUpToStyle_connect
    (hassembly : assembly ∈ (ofProjects style₁ projects).assemblies)
    (htype : type ∈ assembly.types) :
    IndexedType.SameUpToStyle style₁ style₂
      (Connections.resolvedBase? (ofProjects style₁ projects).registry assembly.name type)
      type (type.connect style₂ (ofProjects style₁ projects).registry assembly.name) := by
  have hrefs := refs_of_mem hassembly htype
  have hbase : type.baseRef = _ := (congrArg Connections.base hrefs).trans Connections.base_ofType
  have hinterfaces : type.interfaceRefs = _ :=
    (congrArg Connections.interfaces hrefs).trans (Connections.interfaces_ofType style₁ style₂)
  constructor
  · show { type with baseRef := none } = IndexedType.mk _ _ _ _ _ none _ _
    exact congrArg (fun interfaceRefs => { type with baseRef := none, interfaceRefs }) hinterfaces
  · show style₁.ShowBase style₂ _ type.baseRef (Connections.ofType style₂ _ _ type).base
    rw [hbase, Connections.base_ofType]
    exact style₁.showBase_filter style₂ _

theorem type?_connected (index : Index) (assembly name : String) :
    (index.connected style).type? assembly name
      = (index.type? assembly name).map (.connect style index.registry assembly) := by
  unfold type? assembly? connected
  rw [List.find?_map]
  cases hfound : index.assemblies.find? (·.name == assembly) with
  | none => simp [Function.comp_def, Assembly.connected, hfound]
  | some found =>
      obtain rfl : found.name = assembly := by simpa using List.find?_some hfound
      simp only [Function.comp_def, Assembly.connected, hfound, Option.map_some, Option.bind_some,
        Assembly.type?, List.find?_map, Option.map_or]
      rfl

/-- The diagrams of a type in two styles. -/
theorem sameUpToStyle_diagramOf (index : Index) (assembly : String) (type : IndexedType) :
    Drawing.SameUpToStyle style₁ style₂ assembly
      (Connections.resolvedBase? index.registry assembly type) type
      (index.diagramOf style₁ assembly type)
      ((index.connected style₂).diagramOf style₂ assembly
        (type.connect style₂ index.registry assembly)) := by
  refine ⟨type.kind, (Connections.ofType style₁ index.registry assembly type).interfaces, type.rows,
    (Connections.ofType style₁ index.registry assembly type).base,
    (Connections.ofType style₂ index.registry assembly type).base, ?_, rfl, ?_⟩
  · rw [Connections.base_ofType, Connections.base_ofType]
    exact style₁.showBase_filter style₂ _
  · rw [Connections.interfaces_ofType style₁ style₂]
    rfl

theorem sameUpToStyle_ofProjects (projects : List Project) :
    SameUpToStyle style₁ style₂ (ofProjects style₁ projects) (ofProjects style₂ projects) := by
  rw [← @connected_ofProjects style₁ style₂]
  exact
    { registry := rfl
      skipped := rfl
      size := by simp [size, connected, Assembly.connected, List.flatMap_map]
      assemblies := by
        refine List.forall₂_map_right_iff.2 (List.forall₂_same.2 fun assembly hassembly => ?_)
        exact ⟨rfl, List.forall₂_map_right_iff.2 (List.forall₂_same.2 fun type htype =>
          sameUpToStyle_connect hassembly htype)⟩
      diagrams := by
        intro assembly name
        unfold diagram?
        rw [type?_connected]
        cases (ofProjects style₁ projects).type? assembly name with
        | none => exact .inl ⟨rfl, rfl⟩
        | some type => exact .inr ⟨type, _, _, rfl, rfl, rfl, sameUpToStyle_diagramOf _ _ _⟩ }

/-- **A style touches nothing but what it is for.** Whatever a provider gives, two styles lead to
the same index apart from the bases that are written down, and to the same diagrams apart from the
labels and the lines to the bases. -/
theorem ofProvider_sameUpToStyle (style₁ style₂ : DiagramStyle) (provider : Provider) :
    match provider.projects with
    | .ok _ => ∃ index₁ index₂, ofProvider style₁ provider = .ok index₁
        ∧ ofProvider style₂ provider = .ok index₂ ∧ SameUpToStyle style₁ style₂ index₁ index₂
    | .error failure =>
        ofProvider style₁ provider = .error failure ∧ ofProvider style₂ provider = .error failure := by
  unfold ofProvider
  cases provider.projects with
  | ok projects => exact ⟨_, _, rfl, rfl, sameUpToStyle_ofProjects projects⟩
  | error failure => exact ⟨rfl, rfl⟩

end Index

end ClassDiagram
