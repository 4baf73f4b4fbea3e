import ClassDiagram.Browser
import ClassDiagram.Proofs.IndexContents

/-!
# What a browser shows

A browser keeps what is selected and the index that it is selected from apart, and either may
change without the other. This file says that they always fit: `Index.Shows` lists what may be
selected of an index, and `Browser.coherent_run` is the invariant of every run.

That a class on display can be chosen again rests on `Index.nodup_qualifiedNames`: a browser
remembers the qualified name of a class, also if it was chosen by another one, and this name
leads back to the same type.
-/

namespace ClassDiagram

/-! ## Finding types again -/

theorem Assembly.mem_of_type? {assembly : Assembly} {name : String} {type : IndexedType}
    (h : assembly.type? name = some type) : type ∈ assembly.types := by
  rcases Option.or_eq_some_iff.1 h with hqualified | ⟨_, hcalled⟩
  · exact List.mem_of_find?_eq_some hqualified
  · exact List.mem_of_find?_eq_some hcalled

/-- A qualified name leads to its type, also if an identifier is spelled like it. -/
theorem Assembly.type?_qualifiedName {assembly : Assembly} {type : IndexedType}
    (hnodup : (assembly.types.map (·.qualifiedName)).Nodup) (htype : type ∈ assembly.types) :
    assembly.type? type.qualifiedName = some type := by
  rw [type?, find?_eq_some_of_nodup hnodup htype]
  rfl

namespace Index

/-- The index was built from what some provider gave. -/
def IsBuilt (index : Index) : Prop :=
  ∃ style provider, ofProvider style provider = .ok index

theorem exists_listing {index : Index} {name : String} (h : name ∈ index.names) :
    ∃ classes, index.listing? name = some classes := by
  obtain ⟨assembly, hmem, hname⟩ := List.mem_map.1 h
  cases hfind : index.assembly? name with
  | none => exact absurd (beq_iff_eq.2 hname) (List.find?_eq_none.1 hfind assembly hmem)
  | some found => exact ⟨found.listing, by rw [listing?, hfind]; rfl⟩

theorem type?_eq_some {index : Index} {name className : String} {type : IndexedType} :
    index.type? name className = some type
      ↔ ∃ assembly, index.assembly? name = some assembly
        ∧ assembly.type? className = some type :=
  Option.bind_eq_some_iff

/-- The qualified name of a type leads to this type. -/
theorem type?_qualifiedName {index : Index} {name : String} {assembly : Assembly}
    {type : IndexedType} (hbuilt : index.IsBuilt) (hassembly : index.assembly? name = some assembly)
    (htype : type ∈ assembly.types) : index.type? name type.qualifiedName = some type := by
  obtain ⟨style, provider, hindex⟩ := hbuilt
  obtain ⟨projects, rfl⟩ := exists_projects_of_ofProvider hindex
  have hnodup := nodup_qualifiedNames (List.mem_of_find?_eq_some hassembly)
  exact type?_eq_some.2 ⟨assembly, hassembly, assembly.type?_qualifiedName hnodup htype⟩

/-- What may be selected of an index: nothing, one of its assemblies, or a type of one of them
together with its diagram. -/
inductive Shows (style : DiagramStyle) (index : Index) : Selection → Prop where
  | idle : Shows style index .idle
  | assembly {name : String} {assembly : Assembly}
      (hassembly : index.assembly? name = some assembly) : Shows style index (.assembly name)
  | drawn {name : String} {assembly : Assembly} {type : IndexedType}
      (hassembly : index.assembly? name = some assembly) (htype : type ∈ assembly.types) :
      Shows style index (.drawn name type.qualifiedName (index.diagramOf style name type))

variable {style : DiagramStyle} {index : Index} {selection : Selection}

theorem Shows.ne_focused (h : index.Shows style selection) (name className : String) :
    selection ≠ .focused name className := by
  rintro rfl
  cases h

theorem Shows.exists_assembly (h : index.Shows style selection) {name : String}
    (hname : selection.assembly? = some name) :
    ∃ assembly, index.assembly? name = some assembly := by
  cases h with
  | idle => exact absurd hname (by simp [Selection.assembly?])
  | assembly hassembly =>
      obtain rfl := Option.some.inj hname
      exact ⟨_, hassembly⟩
  | drawn hassembly _ =>
      obtain rfl := Option.some.inj hname
      exact ⟨_, hassembly⟩

theorem Shows.exists_type {name className diagram : String}
    (h : index.Shows style (.drawn name className diagram)) :
    ∃ assembly type, index.assembly? name = some assembly ∧ type ∈ assembly.types
      ∧ type.qualifiedName = className ∧ index.diagramOf style name type = diagram := by
  cases h with
  | drawn hassembly htype => exact ⟨_, _, hassembly, htype, rfl, rfl⟩

end Index

namespace Browser

/-! ## Runs -/

/-- Something that is done to a browser, or to a mailbox of someone who watches it. Only built
indexes are taken over. -/
inductive Action where
  | watch
  | unwatch (mailbox : Nat)
  | takeOver (index : Index) (built : index.IsBuilt)
  | load (session : LoadSession) (provider : Provider)
  | chooseAssembly (name : String)
  | chooseClass (name : String)

/-- The browser after an action. -/
def perform (browser : Browser) : Action → Browser
  | .watch => browser.watch
  | .unwatch mailbox => browser.unwatch mailbox
  | .takeOver index _ => browser.takeOver index
  | .load session provider => (browser.load session provider).1
  | .chooseAssembly name => (browser.chooseAssembly name).1
  | .chooseClass name => (browser.chooseClass name).1

/-- The browser after some actions, one after the other. -/
def run (browser : Browser) (actions : List Action) : Browser :=
  actions.foldl perform browser

/-- What every action preserves holds after every run. -/
theorem run_preserves {P : Browser → Prop}
    (hstep : ∀ browser action, P browser → P (browser.perform action))
    {browser : Browser} (h : P browser) (actions : List Action) : P (browser.run actions) := by
  induction actions generalizing browser with
  | nil => exact h
  | cons action rest ih => exact ih (hstep browser action h)

/-! ## The invariant -/

/-- What is selected is in the index, and without an index nothing is selected. -/
def Coherent (browser : Browser) : Prop :=
  match browser.index with
  | none => browser.selection = .idle
  | some index => index.IsBuilt ∧ index.Shows browser.style browser.selection

theorem coherent_takeOver {index : Index} (hbuilt : index.IsBuilt) (browser : Browser) :
    (browser.takeOver index).Coherent :=
  ⟨hbuilt, .idle⟩

/-- A load that succeeds gives a built index, whatever its provider asked the session for. -/
theorem isBuilt_of_load {session : LoadSession} {provider : Provider} {index : Index}
    (h : (session.load provider).2.result = .ok index) : index.IsBuilt := by
  obtain ⟨requests, projects⟩ := provider
  rw [LoadSession.load] at h
  cases hclaim : session.claim? with
  | none =>
      rw [hclaim] at h
      exact absurd h (by simp)
  | some claimed =>
      rw [hclaim] at h
      exact ⟨session.style, .answering requests projects, h⟩

theorem coherent_load {browser : Browser} (h : browser.Coherent) (session : LoadSession)
    (provider : Provider) : (browser.load session provider).1.Coherent := by
  unfold load
  cases hresult : (session.load provider).2.result with
  | ok index =>
      dsimp only
      rw [hresult]
      exact coherent_takeOver (isBuilt_of_load hresult) browser
  | error failure =>
      dsimp only
      rw [hresult]
      exact h

theorem coherent_chooseAssembly {browser : Browser} (h : browser.Coherent) (name : String) :
    (browser.chooseAssembly name).1.Coherent := by
  unfold chooseAssembly
  cases hnext : browser.chooseAssembly? name with
  | none => exact h
  | some next =>
      obtain ⟨classes, hclasses, rfl⟩ := Option.map_eq_some_iff.1 hnext
      obtain ⟨index, hindex, hlisting⟩ := Option.bind_eq_some_iff.1 hclasses
      obtain ⟨assembly, hassembly, _⟩ := Option.map_eq_some_iff.1 hlisting
      unfold Coherent at h ⊢
      dsimp only [announce]
      rw [hindex] at h ⊢
      exact ⟨h.1, .assembly hassembly⟩

/-- A class is looked up in the selected assembly of the browser's index. -/
theorem classNamed?_eq_some {browser : Browser} {name : String} {index : Index}
    {assembly : String} {type : IndexedType} :
    browser.classNamed? name = some (index, assembly, type)
      ↔ browser.index = some index ∧ browser.selection.assembly? = some assembly
        ∧ index.type? assembly name = some type := by
  simp [classNamed?, Option.bind_eq_some_iff]

theorem coherent_chooseClass {browser : Browser} (h : browser.Coherent) (name : String) :
    (browser.chooseClass name).1.Coherent := by
  unfold chooseClass
  cases hclass : browser.classNamed? name with
  | none => exact h
  | some found =>
      obtain ⟨index, assembly, type⟩ := found
      obtain ⟨hindex, _, htype⟩ := classNamed?_eq_some.1 hclass
      obtain ⟨record, hrecord, hcalled⟩ := Index.type?_eq_some.1 htype
      unfold Coherent at h ⊢
      dsimp only [announce]
      rw [hindex] at h ⊢
      exact ⟨h.1, .drawn hrecord (Assembly.mem_of_type? hcalled)⟩

/-- **The invariant is preserved by every action.** -/
theorem coherent_perform (browser : Browser) (action : Action) (h : browser.Coherent) :
    (browser.perform action).Coherent := by
  cases action with
  | watch => exact h
  | unwatch mailbox => exact h
  | takeOver index hbuilt => exact coherent_takeOver hbuilt browser
  | load session provider => exact coherent_load h session provider
  | chooseAssembly name => exact coherent_chooseAssembly h name
  | chooseClass name => exact coherent_chooseClass h name

theorem style_perform (browser : Browser) (action : Action) :
    (browser.perform action).style = browser.style := by
  cases action with
  | watch => rfl
  | unwatch mailbox => rfl
  | takeOver index hbuilt => rfl
  | load session provider =>
      rw [perform, load]
      dsimp only
      split <;> rfl
  | chooseAssembly name =>
      rw [perform, chooseAssembly]
      cases hnext : browser.chooseAssembly? name with
      | none => rfl
      | some next =>
          obtain ⟨classes, _, rfl⟩ := Option.map_eq_some_iff.1 hnext
          rfl
  | chooseClass name =>
      rw [perform, chooseClass]
      split <;> rfl

theorem coherent_run (style : DiagramStyle) (clipboard : Clipboard) (actions : List Action) :
    (run { style, clipboard } actions).Coherent := by
  have hstart : Coherent { style, clipboard } := by
    unfold Coherent
    rfl
  exact run_preserves coherent_perform hstart actions

theorem style_run (browser : Browser) (actions : List Action) :
    (browser.run actions).style = browser.style :=
  run_preserves (P := fun next => next.style = browser.style)
    (fun next action h => (style_perform next action).trans h) rfl actions

/-! ## What it says about selections -/

/-- Every assembly of the index can be chosen. -/
theorem chooseAssembly_of_mem_names {browser : Browser} {index : Index} {name : String}
    (hindex : browser.index = some index) (hname : name ∈ index.names) :
    (browser.chooseAssembly name).1.selection = .assembly name := by
  obtain ⟨classes, hlisting⟩ := Index.exists_listing hname
  unfold chooseAssembly chooseAssembly?
  rw [hindex, Option.bind_some, hlisting]
  rfl

theorem chooseClass_of_classNamed? {browser : Browser} {name : String} {index : Index}
    {assembly : String} {type : IndexedType}
    (h : browser.classNamed? name = some (index, assembly, type)) :
    (browser.chooseClass name).1.selection
        = .drawn assembly type.qualifiedName (index.diagramOf browser.style assembly type)
      ∧ (browser.chooseClass name).2
        = some (index.diagramOf browser.style assembly type) := by
  unfold chooseClass
  rw [h]
  exact ⟨rfl, rfl⟩

namespace Coherent

variable {browser : Browser}

theorem eq_idle (h : browser.Coherent) (hindex : browser.index = none) :
    browser.selection = .idle := by
  unfold Coherent at h
  rw [hindex] at h
  exact h

/-- Whatever is selected is selected of an index. -/
theorem exists_index (h : browser.Coherent) (hselected : browser.selection ≠ .idle) :
    ∃ index, browser.index = some index ∧ index.IsBuilt
      ∧ index.Shows browser.style browser.selection := by
  cases hindex : browser.index with
  | none => exact absurd (h.eq_idle hindex) hselected
  | some index =>
      unfold Coherent at h
      rw [hindex] at h
      exact ⟨index, rfl, h⟩

theorem ne_focused (h : browser.Coherent) (name className : String) :
    browser.selection ≠ .focused name className := by
  intro hfocused
  obtain ⟨index, _, _, hshows⟩ := h.exists_index (by simp [hfocused])
  exact hshows.ne_focused name className hfocused

theorem exists_assembly (h : browser.Coherent) {name : String}
    (hname : browser.selection.assembly? = some name) :
    ∃ index assembly, browser.index = some index ∧ index.assembly? name = some assembly := by
  have hselected : browser.selection ≠ .idle := by
    intro hidle
    simp [hidle, Selection.assembly?] at hname
  obtain ⟨index, hindex, _, hshows⟩ := h.exists_index hselected
  obtain ⟨assembly, hassembly⟩ := hshows.exists_assembly hname
  exact ⟨index, assembly, hindex, hassembly⟩

/-- The name of a class on display leads to the type that the diagram is of. -/
theorem exists_type (h : browser.Coherent) {name className diagram : String}
    (hdrawn : browser.selection = .drawn name className diagram) :
    ∃ index assembly type, browser.index = some index ∧ index.assembly? name = some assembly
      ∧ type ∈ assembly.types ∧ type.qualifiedName = className
      ∧ index.type? name className = some type
      ∧ index.diagramOf browser.style name type = diagram := by
  obtain ⟨index, hindex, hbuilt, hshows⟩ := h.exists_index (by simp [hdrawn])
  rw [hdrawn] at hshows
  obtain ⟨assembly, type, hassembly, htype, rfl, hdiagram⟩ := hshows.exists_type
  have hsame := Index.type?_qualifiedName hbuilt hassembly htype
  exact ⟨index, assembly, type, hindex, hassembly, htype, rfl, hsame, hdiagram⟩

/-- To choose the class on display again changes nothing. -/
theorem chooseClass_again (h : browser.Coherent) {name className diagram : String}
    (hdrawn : browser.selection = .drawn name className diagram) :
    (browser.chooseClass className).1.selection = browser.selection
      ∧ (browser.chooseClass className).2 = some diagram := by
  obtain ⟨index, _, type, hindex, _, _, rfl, hsame, rfl⟩ := h.exists_type hdrawn
  have hname : browser.selection.assembly? = some name := by
    rw [hdrawn]
    rfl
  have hclass : browser.classNamed? type.qualifiedName = some (index, name, type) :=
    classNamed?_eq_some.2 ⟨hindex, hname, hsame⟩
  rw [hdrawn]
  exact chooseClass_of_classNamed? hclass

end Coherent

/-- **What is selected is there.** After every run from the start, a selected assembly is one of
the index taken over last, and a class is selected only by its qualified name and together with
the diagram that this index has of it. To choose this class again changes nothing. All that the
index has can be selected, a class by any name that it answers to. -/
theorem run_selection (style : DiagramStyle) (clipboard : Clipboard) (actions : List Action) :
    let browser := run { style, clipboard } actions
    (∀ name className, browser.selection ≠ .focused name className)
      ∧ (browser.index = none → browser.selection = .idle)
      ∧ (∀ name, browser.selection.assembly? = some name →
          ∃ index assembly, browser.index = some index
            ∧ index.assembly? name = some assembly)
      ∧ (∀ name className diagram, browser.selection = .drawn name className diagram →
          ∃ index assembly, browser.index = some index
            ∧ index.assembly? name = some assembly
            ∧ className ∈ assembly.types.map (·.qualifiedName)
            ∧ index.diagram? style name className = some diagram
            ∧ (browser.chooseClass className).1.selection = browser.selection
            ∧ (browser.chooseClass className).2 = some diagram)
      ∧ ∀ index, browser.index = some index →
          (∀ name ∈ index.names, (browser.chooseAssembly name).1.selection = .assembly name)
          ∧ ∀ name className type, browser.selection.assembly? = some name →
              index.type? name className = some type →
              (browser.chooseClass className).1.selection
                = .drawn name type.qualifiedName (index.diagramOf style name type) := by
  intro browser
  have hcoherent : browser.Coherent := coherent_run style clipboard actions
  have hstyle : browser.style = style := style_run { style, clipboard } actions
  refine ⟨hcoherent.ne_focused, hcoherent.eq_idle, fun _ => hcoherent.exists_assembly, ?_, ?_⟩
  · intro name className diagram hdrawn
    obtain ⟨index, assembly, type, hindex, hassembly, htype, hname, hsame, hdiagram⟩ :=
      hcoherent.exists_type hdrawn
    have hagain := hcoherent.chooseClass_again hdrawn
    refine ⟨index, assembly, hindex, hassembly, List.mem_map.2 ⟨type, htype, hname⟩, ?_, hagain⟩
    rw [Index.diagram?, hsame, ← hdiagram, hstyle]
    rfl
  · intro index hindex
    refine ⟨fun name => chooseAssembly_of_mem_names hindex, ?_⟩
    intro name className type hname htype
    have hclass := classNamed?_eq_some.2 ⟨hindex, hname, htype⟩
    rw [← hstyle]
    exact (chooseClass_of_classNamed? hclass).1

end Browser

end ClassDiagram
