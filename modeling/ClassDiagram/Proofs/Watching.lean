import ClassDiagram.Proofs.Browsing

/-!
# What those who watch see

Whoever watches a browser is told of changes only, and never asks. This file says that this is
enough. A `Display` shows what a browser holds; `Display.apply` is what an announcement does to
it. If someone begins to watch with the right display in front of him, and applies whatever he
is told, his display is right at all times (`Browser.run_display`).

`Browser.turnsInto_perform` says what an action does: it changes what the browser holds, and then
announces what turns the display of the browser before into that of the browser after. The
clearing of a diagram is announced only if there was one, and that is often enough. On the
other side a mailbox that is open is never passed over, although closed ones are struck off
while announcements are sent (`Browser.Holds.announce`).
-/

namespace ClassDiagram

/-- What is in front of someone who watches a browser. -/
structure Display where
  /-- The names of the assemblies, once there is an index. -/
  assemblies : Option (List String) := none
  /-- The names of the classes of the chosen assembly, if one is chosen. -/
  classes : Option (List String) := none
  diagram : Option String := none
deriving DecidableEq

/-- What an announcement does to a display. The classes on it belong to the assemblies on it, so
they go when others come. -/
def Display.apply (display : Display) : Announcement → Display
  | .assemblies names => { display with assemblies := some names, classes := none }
  | .classes names => { display with classes := some names }
  | .noDiagram => { display with diagram := none }
  | .diagram text => { display with diagram := some text }

namespace Mailbox

theorem isOpen_foldl_deliver (mailbox : Mailbox) (announcements : List Announcement) :
    (announcements.foldl deliver mailbox).isOpen = mailbox.isOpen := by
  induction announcements generalizing mailbox with
  | nil => rfl
  | cons announcement rest ih =>
      rw [List.foldl_cons, ih]
      unfold deliver
      split
      · rfl
      · split <;> rfl

theorem foldl_deliver {mailbox : Mailbox} (hopen : mailbox.isOpen = true)
    (hlisted : mailbox.isListed = true) (announcements : List Announcement) :
    announcements.foldl deliver mailbox
      = { mailbox with received := mailbox.received ++ announcements } := by
  induction announcements generalizing mailbox with
  | nil => rw [List.append_nil]; rfl
  | cons announcement rest ih =>
      have hdeliver : mailbox.deliver announcement
          = { mailbox with received := mailbox.received ++ [announcement] } := by
        rw [deliver, hlisted, if_neg (by simp), if_pos hopen]
      have hrest := @ih { mailbox with received := mailbox.received ++ [announcement] }
        hopen hlisted
      rw [List.foldl_cons, hdeliver, hrest, List.append_assoc, List.singleton_append]

end Mailbox

namespace Browser

/-- What a browser holds, as a display shows it. -/
def display (browser : Browser) : Display where
  assemblies := browser.index.map Index.names
  classes := browser.index.bind fun index => browser.selection.assembly?.bind index.listing?
  diagram := browser.selection.diagram?

/-! ## What is announced -/

/-- What an action has the browser announce. -/
def announced (browser : Browser) : Action → List Announcement
  | .watch | .unwatch _ => []
  | .takeOver index _ => .assemblies index.names :: browser.clearing
  | .load session provider =>
    match (session.load provider).2.result with
    | .ok index => .assemblies index.names :: browser.clearing
    | .error _ => []
  | .chooseAssembly name =>
    match browser.index.bind (·.listing? name) with
    | some classes => .classes classes :: browser.clearing
    | none => []
  | .chooseClass name =>
    match browser.classNamed? name with
    | some (index, assembly, type) =>
      [.diagram (index.diagramOf browser.style assembly type)]
    | none => []

/-- What some actions have the browser announce, one after the other. -/
def announcedBy (browser : Browser) : List Action → List Announcement
  | [] => []
  | action :: rest => browser.announced action ++ (browser.perform action).announcedBy rest

/-- Once the clearing is announced there is no diagram on display, whether there was one or
not. -/
theorem foldl_clearing {browser : Browser} {display : Display}
    (h : display.diagram = browser.selection.diagram?) :
    browser.clearing.foldl Display.apply display = { display with diagram := none } := by
  unfold clearing
  cases hdiagram : browser.selection.diagram? with
  | none =>
      rw [hdiagram] at h
      obtain ⟨assemblies, classes, diagram⟩ := display
      obtain rfl : diagram = none := h
      rfl
  | some text => rfl

/-! ## What is received -/

/-- The mailboxes as an action leaves them, before anything is announced. -/
def Action.mailboxes : Action → List Mailbox → List Mailbox
  | .watch, mailboxes => mailboxes ++ [{}]
  | .unwatch number, mailboxes => mailboxes.modify number Mailbox.close
  | _, mailboxes => mailboxes

/-- An action leaves a mailbox as it is, or closes it if that is what the action is about. -/
theorem Action.mailboxes_get (action : Action) {mailboxes : List Mailbox} {number : Nat}
    {mailbox : Mailbox} (h : mailboxes[number]? = some mailbox) :
    (action.mailboxes mailboxes)[number]? = some mailbox
      ∨ action = .unwatch number
        ∧ (action.mailboxes mailboxes)[number]? = some mailbox.close := by
  cases action with
  | watch =>
      left
      rw [Action.mailboxes, List.getElem?_append_left (List.getElem?_eq_some_iff.1 h).1]
      exact h
  | unwatch other =>
      by_cases hother : other = number
      · subst hother
        right
        rw [Action.mailboxes, List.getElem?_modify_eq, h]
        exact ⟨rfl, rfl⟩
      · left
        rw [Action.mailboxes, List.getElem?_modify_ne _ _ hother]
        exact h
  | takeOver index built => exact .inl h
  | load session provider => exact .inl h
  | chooseAssembly name => exact .inl h
  | chooseClass name => exact .inl h

/-- The mailbox of this number holds exactly these announcements, unless it is closed. -/
def Holds (browser : Browser) (number : Nat) (announcements : List Announcement) : Prop :=
  ∃ mailbox, browser.mailboxes[number]? = some mailbox
    ∧ (mailbox.isOpen = true →
      mailbox.isListed = true ∧ mailbox.received = announcements)

section Holds

variable {browser : Browser} {number : Nat} {announcements : List Announcement}

theorem holds_watch (browser : Browser) :
    browser.watch.Holds browser.mailboxes.length [] := by
  refine ⟨{}, ?_, fun _ => ⟨rfl, rfl⟩⟩
  rw [watch, List.getElem?_append_right (Nat.le_refl _), Nat.sub_self]
  rfl

/-- An action leaves what was received before, in every mailbox that it does not close. -/
theorem Holds.performed (h : browser.Holds number announcements) {action : Action}
    {changed : Browser} (hchanged : changed.mailboxes = action.mailboxes browser.mailboxes) :
    changed.Holds number announcements := by
  obtain ⟨mailbox, hmailbox, hreceived⟩ := h
  rcases action.mailboxes_get hmailbox with hsame | ⟨_, hclosed⟩
  · exact ⟨mailbox, by rw [hchanged, hsame], hreceived⟩
  · exact ⟨mailbox.close, by rw [hchanged, hclosed], fun hopen => absurd hopen Bool.false_ne_true⟩

/-- Announcements reach every open mailbox, and leave closed ones closed. -/
theorem Holds.announce (h : browser.Holds number announcements) (more : List Announcement) :
    (browser.announce more).Holds number (announcements ++ more) := by
  obtain ⟨mailbox, hmailbox, hreceived⟩ := h
  refine ⟨more.foldl Mailbox.deliver mailbox, ?_, fun hopen => ?_⟩
  · rw [Browser.announce, List.getElem?_map, hmailbox]
    rfl
  · rw [Mailbox.isOpen_foldl_deliver] at hopen
    obtain ⟨hlisted, rfl⟩ := hreceived hopen
    rw [Mailbox.foldl_deliver hopen hlisted]
    exact ⟨hlisted, rfl⟩

end Holds

/-! ## What an action does -/

theorem announce_nil (browser : Browser) : browser.announce [] = browser := by
  rw [announce]
  exact congrArg (Browser.mk _ _ _ _) (List.map_id _)

/-- The one browser turns into the other: it comes to hold something else, its mailboxes are
these, and then it announces what turns the one display into the other. -/
def TurnsInto (browser next : Browser) (mailboxes : List Mailbox)
    (announcements : List Announcement) : Prop :=
  ∃ changed : Browser, next = changed.announce announcements
    ∧ announcements.foldl Display.apply browser.display = changed.display
    ∧ changed.mailboxes = mailboxes

/-- Nothing is announced when nothing is done that anybody could see. -/
theorem turnsInto_self (browser : Browser) :
    browser.TurnsInto browser browser.mailboxes [] :=
  ⟨browser, (announce_nil browser).symm, rfl, rfl⟩

theorem turnsInto_takeOver (browser : Browser) (index : Index) :
    browser.TurnsInto (browser.takeOver index) browser.mailboxes
      (.assemblies index.names :: browser.clearing) := by
  refine ⟨{ browser with index := some index, selection := .idle }, rfl, ?_, rfl⟩
  rw [List.foldl_cons, foldl_clearing rfl]
  rfl

theorem turnsInto_chooseAssembly (browser : Browser) (name : String) :
    browser.TurnsInto (browser.chooseAssembly name).1 browser.mailboxes
      (browser.announced (.chooseAssembly name)) := by
  rw [announced, chooseAssembly, chooseAssembly?]
  cases hlisting : browser.index.bind (·.listing? name) with
  | none => exact browser.turnsInto_self
  | some classes =>
      obtain ⟨index, hindex, hclasses⟩ := Option.bind_eq_some_iff.1 hlisting
      refine ⟨{ browser with selection := .assembly name }, rfl, ?_, rfl⟩
      rw [List.foldl_cons, foldl_clearing rfl]
      simp [display, Display.apply, hindex, hclasses, Selection.assembly?, Selection.diagram?]

/-- The assembly stays chosen, so the classes on display are still the right ones. -/
theorem turnsInto_chooseClass (browser : Browser) (name : String) :
    browser.TurnsInto (browser.chooseClass name).1 browser.mailboxes
      (browser.announced (.chooseClass name)) := by
  rw [announced, chooseClass]
  cases hclass : browser.classNamed? name with
  | none => exact browser.turnsInto_self
  | some found =>
      obtain ⟨index, assembly, type⟩ := found
      obtain ⟨hindex, hassembly, _⟩ := classNamed?_eq_some.1 hclass
      refine ⟨{ browser with
          clipboard := browser.clipboard.offer (index.diagramOf browser.style assembly type)
          selection := .drawn assembly type.qualifiedName
            (index.diagramOf browser.style assembly type) }, rfl, ?_, rfl⟩
      have hclasses : browser.index.bind (fun index =>
          browser.selection.assembly?.bind index.listing?)
          = browser.index.bind (fun index => index.listing? assembly) := by
        rw [hindex, hassembly]
        rfl
      dsimp only
      rw [List.foldl_cons, List.foldl_nil, display, hclasses]
      rfl

/-- **What an action does.** It changes what the browser holds, opens or closes a mailbox if
that is what it is about, and then announces the change. -/
theorem turnsInto_perform (browser : Browser) (action : Action) :
    browser.TurnsInto (browser.perform action) (action.mailboxes browser.mailboxes)
      (browser.announced action) := by
  cases action with
  | watch => exact ⟨browser.watch, (announce_nil _).symm, rfl, rfl⟩
  | unwatch mailbox => exact ⟨browser.unwatch mailbox, (announce_nil _).symm, rfl, rfl⟩
  | takeOver index _ => exact browser.turnsInto_takeOver index
  | load session provider =>
      -- a load that fails leaves the browser as it was
      rw [perform, announced, load]
      dsimp only
      cases (session.load provider).2.result with
      | ok index => exact browser.turnsInto_takeOver index
      | error failure => exact browser.turnsInto_self
  | chooseAssembly name => exact browser.turnsInto_chooseAssembly name
  | chooseClass name => exact browser.turnsInto_chooseClass name

/-! ## Runs -/

theorem holds_run {browser : Browser} {number : Nat} {announcements : List Announcement}
    (h : browser.Holds number announcements) (actions : List Action) :
    (browser.run actions).Holds number (announcements ++ browser.announcedBy actions) := by
  induction actions generalizing browser announcements with
  | nil =>
      rw [announcedBy, List.append_nil]
      exact h
  | cons action rest ih =>
      obtain ⟨changed, hperform, _, hmailboxes⟩ := browser.turnsInto_perform action
      have hnext : (browser.perform action).Holds number
          (announcements ++ browser.announced action) := by
        rw [hperform]
        exact (h.performed hmailboxes).announce _
      rw [announcedBy, ← List.append_assoc]
      exact ih hnext

/-- A mailbox is not closed unless that is what an action is about. -/
theorem isWatched_perform {browser : Browser} {number : Nat} {action : Action}
    (hopen : browser.isWatched number = true) (haction : action ≠ .unwatch number) :
    (browser.perform action).isWatched number = true := by
  obtain ⟨changed, hperform, _, hmailboxes⟩ := browser.turnsInto_perform action
  obtain ⟨mailbox, hmailbox, hmailboxOpen⟩ := (Option.any_eq_true _ _).1 hopen
  have hchanged : changed.mailboxes[number]? = some mailbox := by
    rw [hmailboxes]
    exact (action.mailboxes_get hmailbox).resolve_right fun hclosed => haction hclosed.1
  rw [hperform, isWatched, announce, List.getElem?_map, hchanged, Option.map_some,
    Option.any_some, Mailbox.isOpen_foldl_deliver]
  exact hmailboxOpen

theorem isWatched_run {browser : Browser} {number : Nat} {actions : List Action}
    (hopen : browser.isWatched number = true) (hactions : .unwatch number ∉ actions) :
    (browser.run actions).isWatched number = true := by
  induction actions generalizing browser with
  | nil => exact hopen
  | cons action rest ih =>
      have hne : action ≠ .unwatch number := fun haction => hactions (haction ▸ .head rest)
      exact ih (isWatched_perform hopen hne) fun hmem => hactions (.tail action hmem)

/-- **What is announced is what changes**, over any number of actions. -/
theorem foldl_announcedBy (browser : Browser) (actions : List Action) :
    (browser.announcedBy actions).foldl Display.apply browser.display
      = (browser.run actions).display := by
  induction actions generalizing browser with
  | nil => rfl
  | cons action rest ih =>
      obtain ⟨changed, hperform, hdisplay, _⟩ := browser.turnsInto_perform action
      have hnext : changed.display = (browser.perform action).display := by
        rw [hperform]
        rfl
      rw [announcedBy, List.foldl_append, hdisplay, hnext]
      exact ih (browser.perform action)

/-- A selected assembly has its classes on display, and otherwise there are none. -/
theorem Coherent.isSome_classes {browser : Browser} (h : browser.Coherent) :
    browser.display.classes.isSome = browser.selection.assembly?.isSome := by
  rw [display]
  dsimp only
  cases hname : browser.selection.assembly? with
  | none =>
      cases browser.index with
      | none => rfl
      | some index => rfl
  | some name =>
      obtain ⟨index, assembly, hindex, hassembly⟩ := h.exists_assembly hname
      rw [hindex, Option.bind_some, Option.bind_some, Index.listing?, hassembly]
      rfl

theorem diagram?_eq_some {selection : Selection} {text : String} :
    selection.diagram? = some text
      ↔ ∃ assembly className, selection = .drawn assembly className text := by
  constructor
  · intro h
    cases selection with
    | drawn assembly className diagram =>
        obtain rfl := Option.some.inj h
        exact ⟨assembly, className, rfl⟩
    | idle => cases h
    | assembly name => cases h
    | focused name className => cases h
  · rintro ⟨assembly, className, rfl⟩
    rfl

/-- Whoever watches reads what is announced, from the time he began and as long as his mailbox
stays open, whoever else begins or ceases to watch. -/
theorem exists_mailbox_of_isWatched (browser : Browser) (actions : List Action)
    (hopen : (browser.watch.run actions).isWatched browser.mailboxes.length = true) :
    ∃ mailbox, (browser.watch.run actions).mailboxes[browser.mailboxes.length]? = some mailbox
      ∧ mailbox.received = browser.watch.announcedBy actions := by
  obtain ⟨mailbox, hmailbox, hreceived⟩ := holds_run (holds_watch browser) actions
  rw [isWatched, hmailbox] at hopen
  exact ⟨mailbox, hmailbox, (hreceived hopen).2⟩

/-- **Those who watch see what there is.** Whoever begins to watch at any time of any run, with
what the browser then holds on display, receives all that is announced afterwards, once and in
order. The display that he has by applying it shows what the browser holds now: the names of the
assemblies, the classes if an assembly is selected, and the diagram if one is drawn. -/
theorem run_display (style : DiagramStyle) (clipboard : Clipboard)
    (before after : List Action) :
    let opened := (run { style, clipboard } before).watch
    let number := (run { style, clipboard } before).mailboxes.length
    let now := opened.run after
    now.isWatched number = true →
    ∃ mailbox, now.mailboxes[number]? = some mailbox
      ∧ mailbox.received = opened.announcedBy after
      ∧ mailbox.received.foldl Display.apply opened.display = now.display
      ∧ now.display.assemblies = now.index.map Index.names
      ∧ now.display.classes
        = now.index.bind (fun index => now.selection.assembly?.bind index.listing?)
      ∧ now.display.classes.isSome = now.selection.assembly?.isSome
      ∧ ∀ text, now.display.diagram = some text
        ↔ ∃ assembly className, now.selection = .drawn assembly className text := by
  intro opened number now hopen
  obtain ⟨mailbox, hmailbox, hreceived⟩ := exists_mailbox_of_isWatched _ after hopen
  have hdisplay : mailbox.received.foldl Display.apply opened.display = now.display := by
    rw [hreceived]
    exact foldl_announcedBy opened after
  have hopened : opened.Coherent := coherent_run style clipboard before
  have hcoherent : now.Coherent := run_preserves coherent_perform hopened after
  exact ⟨mailbox, hmailbox, hreceived, hdisplay, rfl, rfl, hcoherent.isSome_classes,
    fun _ => diagram?_eq_some⟩

/-- A class is looked at, while someone else comes and goes. -/
def visit : List Action :=
  [.watch, .load {} (.ofProjects [Index.dogInTwoParts]), .chooseAssembly "Zoo", .unwatch 1,
    .chooseClass "Dog"]

theorem display_visit (browser : Browser) :
    (browser.run visit).display
      = { assemblies := some ["Zoo"]
          classes := some ["Dog"]
          diagram := some ((Index.ofProjects {} [Index.dogInTwoParts]).diagramOf browser.style
            "Zoo" Index.dog) } := by
  let index := Index.ofProjects {} [Index.dogInTwoParts]
  have hassemblies : index.assemblies = [⟨"Zoo", [Index.dog]⟩] :=
    Index.assemblies_dogInTwoParts
  have hnames : index.names = ["Zoo"] := by
    rw [Index.names, hassemblies]
    rfl
  have hlisting : index.listing? "Zoo" = some ["Dog"] := by
    rw [Index.listing?, Index.assembly?, hassemblies]
    simp [Assembly.listing, Text.sortedNames, Index.dog]
  have htype : index.type? "Zoo" "Dog" = some Index.dog := by
    rw [Index.type?, Index.assembly?, hassemblies]
    rfl
  let chosen := (browser.watch.takeOver index).perform (.chooseAssembly "Zoo")
  have hchosen : chosen
      = { browser.watch.takeOver index with selection := .assembly "Zoo" }.announce
        [.classes ["Dog"]] := by
    have hbind : (browser.watch.takeOver index).index.bind (·.listing? "Zoo") = some ["Dog"] :=
      hlisting
    show ((browser.watch.takeOver index).chooseAssembly "Zoo").1 = _
    rw [chooseAssembly, chooseAssembly?, hbind]
    rfl
  have hclass : (chosen.unwatch 1).classNamed? "Dog" = some (index, "Zoo", Index.dog) := by
    rw [hchosen]
    exact classNamed?_eq_some.2 ⟨rfl, rfl, htype⟩
  show ((chosen.unwatch 1).chooseClass "Dog").1.display = _
  rw [chooseClass, hclass, hchosen]
  show Display.mk (some index.names) (index.listing? "Zoo") (some _) = _
  rw [hnames, hlisting]
  rfl

theorem run_display_visit :
    let now := (run {} []).watch.run visit
    now.isWatched 0 = true
      ∧ ∃ mailbox, now.mailboxes[0]? = some mailbox
        ∧ mailbox.received = (run {} []).watch.announcedBy visit
        ∧ mailbox.received.foldl Display.apply {}
          = { assemblies := some ["Zoo"]
              classes := some ["Dog"]
              diagram := some ((Index.ofProjects {} [Index.dogInTwoParts]).diagramOf {}
                "Zoo" Index.dog) } := by
  intro now
  have hother : Action.unwatch 0 ∉ visit := by simp [visit]
  have hopen : now.isWatched 0 = true := isWatched_run rfl hother
  obtain ⟨mailbox, hmailbox, hreceived, hdisplay, _⟩ := run_display {} .discarding [] visit hopen
  refine ⟨hopen, mailbox, hmailbox, hreceived, ?_⟩
  exact hdisplay.trans (display_visit _)

end Browser

end ClassDiagram
