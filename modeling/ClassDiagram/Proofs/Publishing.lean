import ClassDiagram.Proofs.Watching

/-!
# Where diagrams go

A diagram that is drawn goes three ways: to whoever chose the class, to the clipboard, and to
those who watch. This file says that on each way there are the same diagrams, each once and in
order, and that a browser does the same whatever its clipboard makes of them
(`Browser.run_publishes`).

Both come from one equation, `Browser.answer_withClipboard`. It says what a call does if another
clipboard is put in place: the reply and all of the browser but the clipboard are the same, and
the clipboard is offered the diagram of the reply, if there is one, and nothing else.
-/

namespace ClassDiagram

/-- The diagram that an announcement brings. -/
def Announcement.diagram? : Announcement → Option String
  | diagram text => some text
  | assemblies _ | classes _ | noDiagram => none

namespace Browser

/-! ## Calls and replies -/

/-- The event brings no index but a built one. -/
def Event.BringsBuilt : Event → Prop
  | loaded index => index.IsBuilt
  | assemblyChosen _ | classChosen _ => True

/-- The action that an event leads to. -/
def Event.action : (event : Event) → event.BringsBuilt → Action
  | loaded index, built => .takeOver index built
  | assemblyChosen name, _ => .chooseAssembly name
  | classChosen name, _ => .chooseClass name

/-- A call of a browser: an action, or an event that it is to react to. -/
inductive Call where
  | perform (action : Action)
  | react (event : Event) (built : event.BringsBuilt)

/-- What a call does. -/
def Call.asAction : Call → Action
  | perform action => action
  | react event built => event.action built

/-- What comes back from a call. -/
inductive Reply where
  | nothing
  /-- The number of the mailbox that was opened. -/
  | mailbox (number : Nat)
  /-- The session after a load, and what became of the load. -/
  | loaded (session : LoadSession) (report : LoadReport)
  /-- Whether there is such an assembly. -/
  | chosen (known : Bool)
  /-- The diagram that was drawn, if one was. -/
  | drawn (diagram : Option String)

/-- The diagram that comes back. -/
def Reply.diagram? : Reply → Option String
  | drawn diagram => diagram
  | nothing | mailbox _ | loaded _ _ | chosen _ => none

/-- Carries out a call; gives the browser and the reply. -/
def answer (browser : Browser) : Call → Browser × Reply
  | .perform .watch => (browser.watch, .mailbox browser.mailboxes.length)
  | .perform (.unwatch mailbox) => (browser.unwatch mailbox, .nothing)
  | .perform (.takeOver index _) => (browser.takeOver index, .nothing)
  | .perform (.load session provider) =>
    let (next, session, report) := browser.load session provider
    (next, .loaded session report)
  | .perform (.chooseAssembly name) =>
    let (next, known) := browser.chooseAssembly name
    (next, .chosen known)
  | .perform (.chooseClass name) =>
    let (next, diagram) := browser.chooseClass name
    (next, .drawn diagram)
  | .react event _ =>
    let (next, diagram) := browser.react event
    (next, .drawn diagram)

/-- Every reply to some calls, one after the other, and the browser behind each. -/
def transcript (browser : Browser) : List Call → List (Reply × Browser)
  | [] => []
  | call :: rest =>
    let (next, reply) := browser.answer call
    (reply, next) :: next.transcript rest

/-- The browser after some calls. -/
def afterCalls (browser : Browser) (calls : List Call) : Browser :=
  calls.foldl (fun browser call => (browser.answer call).1) browser

/-- The diagrams that come back from some calls. -/
def returned (browser : Browser) (calls : List Call) : List String :=
  (browser.transcript calls).filterMap fun entry => entry.1.diagram?

/-- The browser with another clipboard. -/
def withClipboard (browser : Browser) (clipboard : Clipboard) : Browser :=
  { browser with clipboard }

/-- All that can be seen of a browser without looking at its clipboard. -/
def besideClipboard (browser : Browser) : Browser :=
  browser.withClipboard .discarding

variable {browser : Browser}

theorem answer_fst (browser : Browser) (call : Call) :
    (browser.answer call).1 = browser.perform call.asAction := by
  cases call with
  | perform action => cases action <;> rfl
  | react event built => cases event <;> rfl

theorem afterCalls_eq_run (browser : Browser) (calls : List Call) :
    browser.afterCalls calls = browser.run (calls.map Call.asAction) := by
  induction calls generalizing browser with
  | nil => rfl
  | cons call rest ih =>
      rw [List.map_cons, run, List.foldl_cons, ← answer_fst]
      exact ih (browser.answer call).1

/-! ## The clipboard is offered what comes back -/

/-- What a reply hands to a clipboard. -/
def Reply.offerTo (reply : Reply) (clipboard : Clipboard) : Clipboard :=
  reply.diagram?.elim clipboard clipboard.offer

theorem offered_offerTo (reply : Reply) (clipboard : Clipboard) :
    (reply.offerTo clipboard).offered = clipboard.offered ++ reply.diagram?.toList := by
  unfold Reply.offerTo
  cases reply.diagram? with
  | none => rw [Option.toList_none, List.append_nil]; rfl
  | some diagram => rfl

theorem chooseAssembly_withClipboard (browser : Browser) (clipboard : Clipboard) (name : String) :
    (browser.withClipboard clipboard).chooseAssembly name
      = ((browser.chooseAssembly name).1.withClipboard clipboard,
          (browser.chooseAssembly name).2) := by
  have hnext : (browser.withClipboard clipboard).chooseAssembly? name
      = (browser.chooseAssembly? name).map (·.withClipboard clipboard) := by
    unfold chooseAssembly? withClipboard
    dsimp only
    rw [Option.map_map]
    rfl
  unfold chooseAssembly
  rw [hnext]
  cases browser.chooseAssembly? name with
  | none => rfl
  | some next => rfl

/-- The diagram is drawn without regard to the clipboard that it is offered to. -/
theorem chooseClass_withClipboard (browser : Browser) (clipboard : Clipboard) (name : String) :
    (browser.withClipboard clipboard).chooseClass name
      = ((browser.chooseClass name).1.withClipboard
            ((Reply.drawn (browser.chooseClass name).2).offerTo clipboard),
          (browser.chooseClass name).2) := by
  have hclass : (browser.withClipboard clipboard).classNamed? name = browser.classNamed? name :=
    rfl
  unfold chooseClass
  rw [hclass]
  cases browser.classNamed? name with
  | none => rfl
  | some found => rfl

theorem load_withClipboard (browser : Browser) (clipboard : Clipboard) (session : LoadSession)
    (provider : Provider) :
    (browser.withClipboard clipboard).load session provider
      = ((browser.load session provider).1.withClipboard clipboard,
          (browser.load session provider).2) := by
  unfold load
  dsimp only
  cases (session.load provider).2.result with
  | ok index => rfl
  | error failure => rfl

/-- **A call does not depend on the clipboard.** With another clipboard in place it gives the same
reply and does the same to the rest of the browser, and that clipboard is offered the diagram of
the reply. -/
theorem answer_withClipboard (browser : Browser) (clipboard : Clipboard) (call : Call) :
    (browser.withClipboard clipboard).answer call
      = ((browser.answer call).1.withClipboard ((browser.answer call).2.offerTo clipboard),
          (browser.answer call).2) := by
  cases call with
  | perform action =>
      cases action with
      | watch => rfl
      | unwatch mailbox => rfl
      | takeOver index built => rfl
      | load session provider =>
          rw [answer, load_withClipboard]
          rfl
      | chooseAssembly name =>
          rw [answer, chooseAssembly_withClipboard]
          rfl
      | chooseClass name =>
          rw [answer, chooseClass_withClipboard]
          rfl
  | react event built =>
      cases event with
      | loaded index => rfl
      | assemblyChosen name =>
          rw [answer, react, chooseAssembly_withClipboard]
          rfl
      | classChosen name =>
          rw [answer, react, chooseClass_withClipboard]
          rfl

theorem withClipboard_self (browser : Browser) :
    browser.withClipboard browser.clipboard = browser := rfl

theorem clipboard_answer (browser : Browser) (call : Call) :
    (browser.answer call).1.clipboard = (browser.answer call).2.offerTo browser.clipboard := by
  have h := browser.answer_withClipboard browser.clipboard call
  rw [withClipboard_self] at h
  exact congrArg (fun answer => answer.1.clipboard) h

/-- **A call offers the diagram that comes back from it**, and nothing else. -/
theorem offered_answer (browser : Browser) (call : Call) :
    (browser.answer call).1.clipboard.offered
      = browser.clipboard.offered ++ (browser.answer call).2.diagram?.toList := by
  rw [clipboard_answer, offered_offerTo]

theorem returned_cons (browser : Browser) (call : Call) (rest : List Call) :
    browser.returned (call :: rest)
      = (browser.answer call).2.diagram?.toList ++ (browser.answer call).1.returned rest := by
  unfold returned
  rw [transcript, List.filterMap_cons]
  cases (browser.answer call).2.diagram? with
  | none => rfl
  | some diagram => rfl

theorem offered_afterCalls (browser : Browser) (calls : List Call) :
    (browser.afterCalls calls).clipboard.offered
      = browser.clipboard.offered ++ browser.returned calls := by
  induction calls generalizing browser with
  | nil => exact (List.append_nil _).symm
  | cons call rest ih =>
      have hrest := ih (browser.answer call).1
      rw [offered_answer, List.append_assoc, ← returned_cons] at hrest
      exact hrest

/-- What one clipboard makes of the diagrams is not to be seen in a run with another one. -/
theorem transcript_withClipboard (browser : Browser) (clipboard : Clipboard)
    (calls : List Call) :
    ((browser.withClipboard clipboard).transcript calls).map
        (fun entry => (entry.1, entry.2.besideClipboard))
      = (browser.transcript calls).map fun entry => (entry.1, entry.2.besideClipboard) := by
  induction calls generalizing browser clipboard with
  | nil => rfl
  | cons call rest ih =>
      rw [transcript, transcript, answer_withClipboard, List.map_cons, List.map_cons, ih]
      rfl

/-! ## Those who watch are told what comes back -/

theorem filterMap_clearing (browser : Browser) :
    browser.clearing.filterMap Announcement.diagram? = [] := by
  unfold clearing
  split <;> rfl

/-- **A call announces the diagram that comes back from it**, and no other. -/
theorem announced_asAction (browser : Browser) (call : Call) :
    (browser.announced call.asAction).filterMap Announcement.diagram?
      = (browser.answer call).2.diagram?.toList := by
  -- an assembly or an index brings no diagram, but may end one
  have hassembly : ∀ name, (browser.announced (.chooseAssembly name)).filterMap
      Announcement.diagram? = [] := by
    intro name
    rw [announced]
    cases browser.index.bind (·.listing? name) with
    | none => rfl
    | some classes => exact browser.filterMap_clearing
  have hclass : ∀ name, (browser.announced (.chooseClass name)).filterMap
      Announcement.diagram? = (browser.chooseClass name).2.toList := by
    intro name
    rw [announced, chooseClass]
    cases browser.classNamed? name with
    | none => rfl
    | some found => rfl
  cases call with
  | perform action =>
      cases action with
      | watch => rfl
      | unwatch mailbox => rfl
      | takeOver index built => exact browser.filterMap_clearing
      | load session provider =>
          rw [Call.asAction, announced]
          cases (session.load provider).2.result with
          | ok index => exact browser.filterMap_clearing
          | error failure => rfl
      | chooseAssembly name => exact hassembly name
      | chooseClass name => exact hclass name
  | react event built =>
      cases event with
      | loaded index => exact browser.filterMap_clearing
      | assemblyChosen name => exact hassembly name
      | classChosen name => exact hclass name

theorem announcedBy_asAction (browser : Browser) (calls : List Call) :
    (browser.announcedBy (calls.map Call.asAction)).filterMap Announcement.diagram?
      = browser.returned calls := by
  induction calls generalizing browser with
  | nil => rfl
  | cons call rest ih =>
      rw [List.map_cons, announcedBy, List.filterMap_append, announced_asAction, returned_cons,
        ← answer_fst, ih]

/-- Who begins to watch and does not close his mailbox receives every diagram that comes back
from then on. -/
theorem exists_mailbox_of_calls (browser : Browser) (calls : List Call)
    (hopen : .unwatch browser.mailboxes.length ∉ calls.map Call.asAction) :
    ∃ mailbox, (browser.watch.afterCalls calls).mailboxes[browser.mailboxes.length]?
        = some mailbox
      ∧ mailbox.received.filterMap Announcement.diagram? = browser.watch.returned calls := by
  have hwatched : browser.watch.isWatched browser.mailboxes.length = true := by
    rw [isWatched, watch, List.getElem?_append_right (Nat.le_refl _), Nat.sub_self]
    rfl
  obtain ⟨mailbox, hmailbox, hreceived⟩ :=
    exists_mailbox_of_isWatched browser _ (isWatched_run hwatched hopen)
  rw [← afterCalls_eq_run] at hmailbox
  refine ⟨mailbox, hmailbox, ?_⟩
  rw [hreceived]
  exact browser.watch.announcedBy_asAction calls

/-- **Every diagram goes each way once, and the clipboard is not to be noticed.** Take any run of a
browser, and someone who begins to watch at some point of it, which may be its start. From then on
the diagrams that come back from calls, the texts that are offered to the clipboard and, unless he
closes his mailbox, the diagrams that he is told of are the same, in the same order; and each call
offers the diagram that comes back from it and nothing else. With any other clipboard the same
calls get the same replies, and leave behind each of them a browser that differs in nothing but
the clipboard: it has the same index and selection, and the same has been received by all who
watch. -/
theorem run_publishes (style : DiagramStyle) (clipboard : Clipboard) (before after : List Call) :
    let start : Browser := { style, clipboard }
    let opened := (start.afterCalls before).watch
    let number := (start.afterCalls before).mailboxes.length
    let now := opened.afterCalls after
    now.clipboard.offered = opened.clipboard.offered ++ opened.returned after
      ∧ (.unwatch number ∉ after.map Call.asAction →
        ∃ mailbox, now.mailboxes[number]? = some mailbox
          ∧ mailbox.received.filterMap Announcement.diagram? = opened.returned after)
      ∧ (∀ call, (now.answer call).1.clipboard.offered
          = now.clipboard.offered ++ (now.answer call).2.diagram?.toList)
      ∧ ∀ (other : Clipboard) (calls : List Call),
        (transcript { style, clipboard := other } calls).map
            (fun entry => (entry.1, entry.2.besideClipboard))
          = (start.transcript calls).map fun entry => (entry.1, entry.2.besideClipboard) := by
  intro start opened number now
  refine ⟨opened.offered_afterCalls after, ?_, now.offered_answer, fun other calls => ?_⟩
  · exact exists_mailbox_of_calls (start.afterCalls before) after
  · exact start.transcript_withClipboard other calls

/-- A diagram that is there after a class was chosen, and was not there before, came back. -/
theorem chooseClass_snd_of_display {name text : String}
    (hbefore : browser.selection.diagram? = none)
    (hafter : (browser.chooseClass name).1.display.diagram = some text) :
    (browser.chooseClass name).2 = some text := by
  unfold chooseClass at hafter ⊢
  cases hclass : browser.classNamed? name with
  | none =>
      rw [hclass] at hafter
      exact absurd (hbefore.symm.trans hafter) (by simp)
  | some found =>
      rw [hclass] at hafter
      exact hafter

theorem returned_visit (browser : Browser) :
    browser.returned (visit.map Call.perform)
      = [(Index.ofProjects {} [Index.dogInTwoParts]).diagramOf browser.style "Zoo"
          Index.dog] := by
  let chosen := ((browser.watch.takeOver (Index.ofProjects {} [Index.dogInTwoParts])).perform
    (.chooseAssembly "Zoo")).unwatch 1
  have hreturned : browser.returned (visit.map Call.perform)
      = (chosen.chooseClass "Dog").2.toList := by
    have hlast : browser.returned (visit.map Call.perform)
        = (chosen.returned [.perform (.chooseClass "Dog")]) := rfl
    rw [hlast, returned_cons]
    exact List.append_nil _
  have hbefore : chosen.selection.diagram? = none := by
    show ((browser.watch.takeOver _).chooseAssembly "Zoo").1.selection.diagram? = none
    unfold chooseAssembly
    cases hnext : (browser.watch.takeOver (Index.ofProjects {}
        [Index.dogInTwoParts])).chooseAssembly? "Zoo" with
    | none => rfl
    | some next =>
        obtain ⟨classes, _, rfl⟩ := Option.map_eq_some_iff.1 hnext
        rfl
  have hafter := congrArg Display.diagram (display_visit browser)
  rw [hreturned, chooseClass_snd_of_display hbefore hafter]
  rfl

/-- One diagram is drawn while two watch, of whom the second leaves before. -/
theorem run_publishes_visit :
    let start : Browser := { clipboard := .refusing }
    let calls := visit.map Call.perform
    let diagram := (Index.ofProjects {} [Index.dogInTwoParts]).diagramOf {} "Zoo" Index.dog
    .unwatch 0 ∉ calls.map Call.asAction
      ∧ start.watch.returned calls = [diagram]
      ∧ (start.watch.afterCalls calls).clipboard.offered = [diagram]
      ∧ ∃ mailbox, (start.watch.afterCalls calls).mailboxes[0]? = some mailbox
        ∧ mailbox.received.filterMap Announcement.diagram? = [diagram] := by
  intro start calls diagram
  have hopen : .unwatch 0 ∉ calls.map Call.asAction := by
    show Action.unwatch 0 ∉ visit
    simp [visit]
  have hreturned : start.watch.returned calls = [diagram] := returned_visit start.watch
  obtain ⟨hoffered, hwatching, -⟩ := run_publishes {} .refusing [] calls
  obtain ⟨mailbox, hmailbox, hreceived⟩ := hwatching hopen
  refine ⟨hopen, hreturned, ?_, mailbox, hmailbox, hreceived.trans hreturned⟩
  exact hoffered.trans (congrArg ([] ++ ·) hreturned)

end Browser

end ClassDiagram
