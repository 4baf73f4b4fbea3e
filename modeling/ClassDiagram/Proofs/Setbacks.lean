import ClassDiagram.Proofs.Browsing
import ClassDiagram.Proofs.ConcurrentLoads

/-!
# Setbacks

A browser and the session that it loads in may be asked for something that they cannot do: a load
while another one is running, the projects of a provider that has none, an assembly or a class that
there is not. `Workplace.Setback` lists these cases. A setback changes nothing at all, neither in
the browser nor in the session, and there is no other way to fail (`Workplace.serve_of_setback`,
`Workplace.setback_of_ne_done`). Nothing is assumed about the state in which a setback occurs.

So setbacks cannot drive the two apart. If nobody else loads in the session or hands the browser an
index, the browser always has the current index of the session (`Workplace.inStep_run`).
-/

namespace ClassDiagram

/-! ## What there is not -/

theorem Assembly.type?_eq_none_iff {assembly : Assembly} {name : String} :
    assembly.type? name = none
      ↔ ∀ type ∈ assembly.types, type.qualifiedName ≠ name ∧ type.identifier ≠ name := by
  rw [Assembly.type?, Option.or_eq_none_iff, List.find?_eq_none, List.find?_eq_none]
  constructor
  · rintro ⟨_, h⟩ type htype
    simpa [IndexedType.isCalled] using h type htype
  · intro h
    exact ⟨fun type htype => by simpa using (h type htype).1,
      fun type htype => by simpa [IndexedType.isCalled] using h type htype⟩

theorem Index.listing?_eq_none_iff {index : Index} {name : String} :
    index.listing? name = none ↔ name ∉ index.names := by
  rw [listing?, Option.map_eq_none_iff, assembly?, List.find?_eq_none, names, List.mem_map]
  simp

theorem Index.type?_eq_none_iff {index : Index} {name className : String} :
    index.type? name className = none
      ↔ ∀ assembly, index.assembly? name = some assembly →
          ∀ type ∈ assembly.types, type.qualifiedName ≠ className ∧ type.identifier ≠ className := by
  rw [type?, Option.bind_eq_none_iff]
  exact forall_congr' fun assembly => forall_congr' fun _ => Assembly.type?_eq_none_iff

namespace Browser

variable {browser : Browser}

theorem chooseAssembly?_eq_none_iff {name : String} :
    browser.chooseAssembly? name = none
      ↔ ∀ index, browser.index = some index → name ∉ index.names := by
  rw [chooseAssembly?, Option.map_eq_none_iff, Option.bind_eq_none_iff]
  exact forall_congr' fun index => forall_congr' fun _ => Index.listing?_eq_none_iff

theorem classNamed?_eq_none_iff {name : String} :
    browser.classNamed? name = none
      ↔ ∀ index assembly, browser.index = some index →
          browser.selection.assembly? = some assembly → index.type? assembly name = none := by
  simp only [classNamed?, Option.bind_eq_bind, Option.bind_eq_none_iff, reduceCtorEq, imp_false,
    ← Option.eq_none_iff_forall_ne_some]
  exact ⟨fun h index assembly hindex => h index hindex assembly,
    fun h index hindex assembly => h index assembly hindex⟩

/-! ## Loads -/

variable {session : LoadSession} {provider : Provider}

theorem load_of_loading (h : session.loading = true) :
    browser.load session provider = (browser, session, { result := .error .busy }) := by
  rw [load, LoadTraffic.load_of_loading h]

/-- The loads that the provider asks for before it fails are refused and leave no trace either. -/
theorem load_of_error (hfree : session.loading = false) {failure : Failure}
    (h : provider.projects = .error failure) :
    browser.load session provider
      = (browser, session,
          { result := .error failure
            inner := provider.requests.map fun _ => ⟨true, .error .busy⟩ }) := by
  obtain ⟨style, current, loading⟩ := session
  obtain rfl : loading = false := hfree
  rw [load, LoadTraffic.load_of_free rfl, Index.ofProvider, h]
  rfl

theorem load_of_ok (hfree : session.loading = false) {projects : List Project}
    (h : provider.projects = .ok projects) :
    browser.load session provider
      = (browser.takeOver (Index.ofProjects session.style projects),
          { session with current := some (Index.ofProjects session.style projects) },
          { result := .ok (Index.ofProjects session.style projects)
            inner := provider.requests.map fun _ => ⟨true, .error .busy⟩ }) := by
  obtain ⟨style, current, loading⟩ := session
  obtain rfl : loading = false := hfree
  rw [load, LoadTraffic.load_of_free rfl, Index.ofProvider, h]
  rfl

end Browser

/-! ## Requests -/

/-- A browser and the session that it loads in. -/
structure Workplace where
  browser : Browser
  session : LoadSession

namespace Workplace

/-- What may be asked for. The session is only loaded through the browser. -/
inductive Request where
  | watch
  | unwatch (mailbox : Nat)
  | load (provider : Provider)
  | chooseAssembly (name : String)
  | chooseClass (name : String)

/-- What becomes of a request. -/
inductive Outcome where
  | done
  /-- There is no such assembly or class. -/
  | unknown
  | failed (failure : Failure)

def Outcome.ofResult : Except Failure Index → Outcome
  | .ok _ => done
  | .error failure => failed failure

def Outcome.ofChoice (made : Bool) : Outcome :=
  if made then done else unknown

/-- Does what is asked for. -/
def serve (place : Workplace) : Request → Workplace × Outcome
  | .watch => ({ place with browser := place.browser.watch }, .done)
  | .unwatch mailbox => ({ place with browser := place.browser.unwatch mailbox }, .done)
  | .load provider =>
    let (browser, session, report) := place.browser.load place.session provider
    (⟨browser, session⟩, .ofResult report.result)
  | .chooseAssembly name =>
    let (browser, made) := place.browser.chooseAssembly name
    ({ place with browser }, .ofChoice made)
  | .chooseClass name =>
    let (browser, diagram?) := place.browser.chooseClass name
    ({ place with browser }, .ofChoice diagram?.isSome)

/-- Does what is asked for, one after the other. -/
def run (place : Workplace) (requests : List Request) : Workplace :=
  requests.foldl (fun place request => (place.serve request).1) place

/-- The requests that come to nothing, and what is made of them. -/
inductive Setback (place : Workplace) : Request → Outcome → Prop
  /-- Another load is running in the session. -/
  | busy (provider : Provider) (h : place.session.loading = true) :
      Setback place (.load provider) (.failed .busy)
  | noProjects (provider : Provider) {failure : Failure} (hfree : place.session.loading = false)
      (h : provider.projects = .error failure) : Setback place (.load provider) (.failed failure)
  | noSuchAssembly (name : String)
      (h : ∀ index, place.browser.index = some index → name ∉ index.names) :
      Setback place (.chooseAssembly name) .unknown
  | noIndex (name : String) (h : place.browser.index = none) :
      Setback place (.chooseClass name) .unknown
  | noAssembly (name : String) (h : place.browser.selection.assembly? = none) :
      Setback place (.chooseClass name) .unknown
  /-- The chosen assembly has no class of this qualified name or identifier. -/
  | noSuchClass (name : String) {index : Index} {assembly : String}
      (hindex : place.browser.index = some index)
      (hassembly : place.browser.selection.assembly? = some assembly)
      (h : ∀ record, index.assembly? assembly = some record →
        ∀ type ∈ record.types, type.qualifiedName ≠ name ∧ type.identifier ≠ name) :
      Setback place (.chooseClass name) .unknown

variable {place : Workplace} {request : Request} {outcome : Outcome}

/-- A load that succeeds gives the session and the browser the same index. -/
theorem serve_load_of_ok (hfree : place.session.loading = false) {provider : Provider}
    {projects : List Project} (h : provider.projects = .ok projects) :
    let index := Index.ofProjects place.session.style projects
    place.serve (.load provider)
      = (⟨place.browser.takeOver index, { place.session with current := some index }⟩, .done) := by
  rw [serve, Browser.load_of_ok hfree h]
  rfl

theorem Setback.ne_done (h : place.Setback request outcome) : outcome ≠ .done := by
  rintro rfl
  cases h

theorem serve_chooseClass_of_none {name : String} (h : place.browser.classNamed? name = none) :
    place.serve (.chooseClass name) = (place, .unknown) := by
  rw [serve, Browser.chooseClass, h]
  rfl

/-- **A setback leaves everything as it is**, in the browser and in the session. -/
theorem serve_of_setback (h : place.Setback request outcome) :
    place.serve request = (place, outcome) := by
  cases h with
  | busy provider h =>
      rw [serve, Browser.load_of_loading h]
      rfl
  | noProjects provider hfree h =>
      rw [serve, Browser.load_of_error hfree h]
      rfl
  | noSuchAssembly name h =>
      rw [serve, Browser.chooseAssembly, Browser.chooseAssembly?_eq_none_iff.2 h]
      rfl
  | noIndex name h =>
      refine serve_chooseClass_of_none (Browser.classNamed?_eq_none_iff.2 ?_)
      intro index assembly hindex
      cases h.symm.trans hindex
  | noAssembly name h =>
      refine serve_chooseClass_of_none (Browser.classNamed?_eq_none_iff.2 ?_)
      intro index assembly _ hassembly
      cases h.symm.trans hassembly
  | noSuchClass name hindex hassembly h =>
      refine serve_chooseClass_of_none (Browser.classNamed?_eq_none_iff.2 ?_)
      intro index' assembly' hindex' hassembly'
      -- index and assembly are those in which the class is missing
      obtain rfl := Option.some.inj (hindex.symm.trans hindex')
      obtain rfl := Option.some.inj (hassembly.symm.trans hassembly')
      exact Index.type?_eq_none_iff.2 h

theorem setback_chooseClass_of_none {name : String} (h : place.browser.classNamed? name = none) :
    place.Setback (.chooseClass name) .unknown := by
  cases hindex : place.browser.index with
  | none => exact .noIndex name hindex
  | some index =>
      cases hassembly : place.browser.selection.assembly? with
      | none => exact .noAssembly name hassembly
      | some assembly =>
          have htype := Browser.classNamed?_eq_none_iff.1 h index assembly hindex hassembly
          exact .noSuchClass name hindex hassembly (Index.type?_eq_none_iff.1 htype)

/-- Nothing but a setback prevents a request from being done. -/
theorem setback_of_ne_done (h : (place.serve request).2 ≠ .done) :
    place.Setback request (place.serve request).2 := by
  cases request with
  | watch => exact absurd rfl h
  | unwatch mailbox => exact absurd rfl h
  | load provider =>
      cases hloading : place.session.loading with
      | true =>
          rw [serve, Browser.load_of_loading hloading]
          exact .busy provider hloading
      | false =>
          cases hprojects : provider.projects with
          | ok projects =>
              rw [serve_load_of_ok hloading hprojects] at h
              exact absurd rfl h
          | error failure =>
              rw [serve, Browser.load_of_error hloading hprojects]
              exact .noProjects provider hloading hprojects
  | chooseAssembly name =>
      rw [serve, Browser.chooseAssembly] at h ⊢
      cases hnext : place.browser.chooseAssembly? name with
      | some next =>
          rw [hnext] at h
          exact absurd rfl h
      | none => exact .noSuchAssembly name (Browser.chooseAssembly?_eq_none_iff.1 hnext)
  | chooseClass name =>
      cases hclass : place.browser.classNamed? name with
      | some found =>
          rw [serve, Browser.chooseClass, hclass] at h
          exact absurd rfl h
      | none =>
          rw [serve_chooseClass_of_none hclass]
          exact setback_chooseClass_of_none hclass

/-! ## Browser and session in step -/

/-- The browser has the current index of the session. -/
def InStep (place : Workplace) : Prop :=
  place.browser.index = place.session.current

/-- **No request drives browser and session apart.** -/
theorem inStep_serve (h : place.InStep) (request : Request) :
    (place.serve request).1.InStep := by
  cases request with
  | watch => exact h
  | unwatch mailbox => exact h
  | load provider =>
      cases hloading : place.session.loading with
      | true =>
          rw [serve_of_setback (.busy provider hloading)]
          exact h
      | false =>
          cases hprojects : provider.projects with
          | ok projects =>
              -- the index that is built now becomes that of both
              rw [serve_load_of_ok hloading hprojects]
              rfl
          | error failure =>
              rw [serve_of_setback (.noProjects provider hloading hprojects)]
              exact h
  | chooseAssembly name =>
      rw [serve, Browser.chooseAssembly]
      cases hnext : place.browser.chooseAssembly? name with
      | none => exact h
      | some next =>
          obtain ⟨classes, _, rfl⟩ := Option.map_eq_some_iff.1 hnext
          exact h
  | chooseClass name =>
      rw [serve, Browser.chooseClass]
      cases place.browser.classNamed? name with
      | none => exact h
      | some found => exact h

theorem inStep_run (h : place.InStep) (requests : List Request) : (place.run requests).InStep := by
  induction requests generalizing place with
  | nil => exact h
  | cons request rest ih => exact ih (inStep_serve h request)

/-- A browser and a session that nothing has been done with. -/
def start (style sessionStyle : DiagramStyle) (clipboard : Clipboard) : Workplace where
  browser := { style, clipboard }
  session := { style := sessionStyle }

/-- **What fails changes nothing**, whatever the browser and the session have been through: not the
selection, the index and the clipboard of the browser, not what those who watch have received, and
not the current index of the session or whether it is loading. And if nobody loads in the session
but through the browser, and nobody else hands the browser an index, then after any requests the
browser has the index that is current in the session, however many of them failed. -/
theorem run_inStep_despite_setbacks :
    (∀ (place : Workplace) (request : Request),
        (∀ outcome, place.Setback request outcome →
          outcome ≠ .done ∧ place.serve request = (place, outcome))
        ∧ ((place.serve request).2 ≠ .done →
          place.Setback request (place.serve request).2 ∧ (place.serve request).1 = place))
      ∧ ∀ (style sessionStyle : DiagramStyle) (clipboard : Clipboard) (requests : List Request),
          let place := (start style sessionStyle clipboard).run requests
          place.browser.index = place.session.current := by
  refine ⟨fun place request => ⟨fun outcome h => ⟨h.ne_done, serve_of_setback h⟩, fun h => ?_⟩,
    fun style sessionStyle clipboard requests => ?_⟩
  · have hsetback := setback_of_ne_done h
    exact ⟨hsetback, congrArg Prod.fst (serve_of_setback hsetback)⟩
  · have hstart : (start style sessionStyle clipboard).InStep := rfl
    exact inStep_run hstart requests

/-- A workplace where someone watches while a codebase is loaded. -/
def opened : Workplace :=
  (start {} {} .keeping).run [.watch, .load (.ofProjects [Index.dogInTwoParts])]

theorem opened_eq :
    opened
      = { browser := { clipboard := .keeping, mailboxes := [{}] : Browser }.takeOver
            (Index.ofProjects {} [Index.dogInTwoParts])
          session := { current := some (Index.ofProjects {} [Index.dogInTwoParts]) } } :=
  congrArg Prod.fst (serve_load_of_ok rfl rfl)

/-- A provider that asks for a load before it has to give up. -/
def offline : Provider :=
  .answering [.ofProjects []] (.error (.load "offline" none))

/-- An assembly is chosen, and then three requests fail. -/
theorem run_inStep_despite_setbacks_opened :
    let index := Index.ofProjects {} [Index.dogInTwoParts]
    let place := (opened.serve (.chooseAssembly "Zoo")).1
    place.browser.selection = .assembly "Zoo" ∧ place.browser.index = some index
      ∧ place.serve (.load offline) = (place, .failed (.load "offline" none))
      ∧ place.serve (.chooseAssembly "Barn") = (place, .unknown)
      ∧ place.serve (.chooseClass "Cat") = (place, .unknown) := by
  intro index place
  obtain ⟨hsetbacks, hinStep⟩ := run_inStep_despite_setbacks
  have hnames : index.names = ["Zoo"] := by
    rw [Index.names, Index.assemblies_dogInTwoParts]
    rfl
  have hrecord : index.assembly? "Zoo" = some ⟨"Zoo", [Index.dog]⟩ := by
    rw [Index.assembly?, Index.assemblies_dogInTwoParts]
    rfl
  have hsession : place.session = { current := some index } := by
    show opened.session = _
    rw [opened_eq]
  have hindex : place.browser.index = some index := by
    refine (hinStep {} {} .keeping [.watch, .load (.ofProjects [Index.dogInTwoParts]),
      .chooseAssembly "Zoo"]).trans ?_
    exact congrArg LoadSession.current hsession
  have hselection : place.browser.selection = .assembly "Zoo" := by
    have hopened : opened.browser.index = some index := by
      rw [opened_eq]
      rfl
    have hzoo : "Zoo" ∈ index.names := by
      rw [hnames]
      exact List.mem_singleton_self _
    exact Browser.chooseAssembly_of_mem_names hopened hzoo
  have hassembly : place.browser.selection.assembly? = some "Zoo" := by
    rw [hselection]
    rfl
  refine ⟨hselection, hindex, ((hsetbacks _ _).1 _ (.noProjects offline ?_ rfl)).2,
    ((hsetbacks _ _).1 _ (.noSuchAssembly "Barn" ?_)).2,
    ((hsetbacks _ _).1 _ (.noSuchClass "Cat" hindex hassembly ?_)).2⟩
  · rw [hsession]
  · intro other hother
    obtain rfl := Option.some.inj (hindex.symm.trans hother)
    rw [hnames]
    decide
  · intro record hother
    obtain rfl := Option.some.inj (hrecord.symm.trans hother)
    decide

end Workplace

end ClassDiagram
