import ClassDiagram.LoadSession
import Mathlib.Data.List.Basic

/-!
# Loads that overlap

For whoever calls it, `LoadSession.load` is one step. But a session is shared, and while one
load waits for its provider others may come in, from anywhere or from this very provider. So
this file takes a load apart into the steps between which others may come in:
`LoadTraffic.perform` lets any call begin, take its next step or be broken off by its provider,
and a list of such moves is one way in which the steps of any number of calls interleave.
Nothing says which caller a call belongs to, for nothing depends on it.

`LoadTraffic.Orderly` is the invariant of all runs. What carries it is that a load installs its
index before it gives the session free, and that nobody comes in as long as it has not: behind
a call that is still running there are only refused ones. `LoadTraffic.exists_run_load` says
that `LoadSession.load` is one such interleaving.
-/

namespace ClassDiagram

/-- How far a load has come. -/
inductive LoadStage where
  /-- The session was claimed by another load. -/
  | refused
  /-- The load has claimed the session. -/
  | claimed
  /-- Its provider was asked, and still has these loads to ask for before it answers. -/
  | asking (requests : List Provider)
  /-- The provider has answered, and what it gave is made into an index. -/
  | built (result : Except Failure Index)
  /-- This index was made the current one. -/
  | installed (index : Index)
  /-- The session was given free, and the caller has the result. -/
  | ended (result : Except Failure Index)
  /-- The provider broke down instead of answering. The session was given free. -/
  | brokenOff

/-- What a load does that others can notice: to the session, or to its provider. -/
inductive LoadEvent where
  | accepted
  | refused
  | asked
  | installed (index : Index)
  | released

/-- The index that an event makes the current one. -/
def LoadEvent.index? : LoadEvent → Option Index
  | installed index => some index
  | accepted | refused | asked | released => none

namespace LoadStage

/-- Whether the load holds the session. -/
def isRunning : LoadStage → Bool
  | claimed | asking _ | built _ | installed _ => true
  | refused | ended _ | brokenOff => false

/-- The index that the load has made the current one. -/
def index? : LoadStage → Option Index
  | installed index | ended (.ok index) => some index
  | refused | claimed | asking _ | built _ | ended (.error _) | brokenOff => none

/-- What has become of the provider's answer. -/
def outcome? : LoadStage → Option (Except Failure Index)
  | built result | ended result => some result
  | installed index => some (.ok index)
  | refused | claimed | asking _ | brokenOff => none

/-- What the caller is told. -/
def result? : LoadStage → Option (Except Failure Index)
  | refused => some (.error .busy)
  | ended result => some result
  | claimed | asking _ | built _ | installed _ | brokenOff => none

/-- What the load has done to get to this stage. -/
def events : LoadStage → List LoadEvent
  | refused => [.refused]
  | claimed => [.accepted]
  | asking _ | built _ => [.accepted, .asked]
  | installed index => [.accepted, .asked, .installed index]
  | ended (.ok index) => [.accepted, .asked, .installed index, .released]
  | ended (.error _) | brokenOff => [.accepted, .asked, .released]

theorem filterMap_index?_events (stage : LoadStage) :
    stage.events.filterMap LoadEvent.index? = stage.index?.toList := by
  cases stage with
  | ended result => cases result <;> rfl
  | _ => rfl

end LoadStage

/-- A call of `LoadSession.load`. -/
structure LoadCall where
  provider : Provider
  stage : LoadStage

namespace LoadCall

/-- Whether the call holds the session. -/
def isRunning (call : LoadCall) : Bool :=
  call.stage.isRunning

/-- The index that the call has made the current one. -/
def index? (call : LoadCall) : Option Index :=
  call.stage.index?

theorem filterMap_index?_singleton (call : LoadCall) :
    [call].filterMap index? = call.stage.events.filterMap LoadEvent.index? := by
  rw [LoadStage.filterMap_index?_events, ← index?]
  cases hindex : call.index? <;> simp [hindex]

end LoadCall

/-- A session together with all calls that were ever made of it, in the order in which they
tried to claim it, and with all that they did, by the numbers of the calls. -/
structure LoadTraffic where
  session : LoadSession
  calls : List LoadCall := []
  history : List (Nat × LoadEvent) := []

/-- What may happen next. -/
inductive LoadMove where
  /-- Somebody calls for a load. -/
  | call (provider : Provider)
  /-- The call of this number takes its next step. -/
  | goOn (number : Nat)
  /-- The provider of the call of this number breaks down. -/
  | breakOff (number : Nat)

namespace LoadTraffic

/-- A session that nobody has called yet. -/
def start (style : DiagramStyle) : LoadTraffic :=
  { session := { style } }

/-- One more call, which gets to a stage at once and leaves the session as given. -/
def join (traffic : LoadTraffic) (session : LoadSession) (provider : Provider)
    (stage : LoadStage) : LoadTraffic where
  session := session
  calls := traffic.calls ++ [⟨provider, stage⟩]
  history := traffic.history ++ stage.events.map (traffic.calls.length, ·)

/-- The call of this number gets to a stage by some events and leaves the session as given. -/
def reach (traffic : LoadTraffic) (number : Nat) (session : LoadSession) (stage : LoadStage)
    (events : List LoadEvent) : LoadTraffic where
  session := session
  calls := traffic.calls.modify number fun call => { call with stage }
  history := traffic.history ++ events.map (number, ·)

/-- A call begins: it claims the session, or is refused. -/
def begin (traffic : LoadTraffic) (provider : Provider) : LoadTraffic :=
  match traffic.session.claim? with
  | some claimed => traffic.join claimed provider .claimed
  | none => traffic.join traffic.session provider .refused

/-- A call takes its next step, if it has one. While its provider is asked, each load that the
provider asks for is a call of its own. -/
def goOn (traffic : LoadTraffic) (number : Nat) : LoadTraffic :=
  match traffic.calls[number]? with
  | none => traffic
  | some call =>
    match call.stage with
    | .claimed =>
      traffic.reach number traffic.session (.asking call.provider.requests) [.asked]
    | .asking (request :: rest) =>
      (traffic.reach number traffic.session (.asking rest) []).begin request
    | .asking [] =>
      traffic.reach number traffic.session
        (.built (Index.ofProvider traffic.session.style call.provider)) []
    | .built (.ok index) =>
      traffic.reach number (traffic.session.install index) (.installed index)
        [.installed index]
    | .built (.error failure) =>
      traffic.reach number traffic.session.release (.ended (.error failure)) [.released]
    | .installed index =>
      traffic.reach number traffic.session.release (.ended (.ok index)) [.released]
    | .refused | .ended _ | .brokenOff => traffic

/-- The provider of a call breaks down, if it is being asked. The session is given free. -/
def breakOff (traffic : LoadTraffic) (number : Nat) : LoadTraffic :=
  match traffic.calls[number]? with
  | some ⟨_, .asking _⟩ => traffic.reach number traffic.session.release .brokenOff [.released]
  | _ => traffic

/-- What comes of a move. -/
def perform (traffic : LoadTraffic) : LoadMove → LoadTraffic
  | .call provider => traffic.begin provider
  | .goOn number => traffic.goOn number
  | .breakOff number => traffic.breakOff number

/-- What comes of some moves, one after the other. -/
def run (traffic : LoadTraffic) (moves : List LoadMove) : LoadTraffic :=
  moves.foldl perform traffic

theorem run_append (traffic : LoadTraffic) (moves more : List LoadMove) :
    traffic.run (moves ++ more) = (traffic.run moves).run more :=
  List.foldl_append

/-- What every move preserves holds after every run. -/
theorem run_preserves {P : LoadTraffic → Prop}
    (hstep : ∀ traffic move, P traffic → P (traffic.perform move))
    {traffic : LoadTraffic} (h : P traffic) (moves : List LoadMove) : P (traffic.run moves) := by
  induction moves generalizing traffic with
  | nil => exact h
  | cons move rest ih => exact ih (hstep traffic move h)

/-! ## Finding a call and changing it -/

theorem begin_of_loading {traffic : LoadTraffic} (h : traffic.session.loading = true)
    (provider : Provider) :
    traffic.begin provider = traffic.join traffic.session provider .refused := by
  rw [begin, LoadSession.claim?, if_pos h]

theorem begin_of_free {traffic : LoadTraffic} (h : traffic.session.loading = false)
    (provider : Provider) :
    traffic.begin provider
      = traffic.join { traffic.session with loading := true } provider .claimed := by
  rw [begin, LoadSession.claim?, if_neg (by simp [h])]

theorem exists_split {α : Type} {things : List α} {n : Nat} {a : α} (h : things[n]? = some a) :
    ∃ before later, things = before ++ a :: later ∧ before.length = n := by
  obtain ⟨hlt, rfl⟩ := List.getElem?_eq_some_iff.1 h
  refine ⟨things.take n, things.drop (n + 1), ?_, List.length_take_of_le (Nat.le_of_lt hlt)⟩
  rw [← List.drop_eq_getElem_cons hlt, List.take_append_drop]

theorem calls_reach {traffic : LoadTraffic} {before later : List LoadCall} {call : LoadCall}
    (hcalls : traffic.calls = before ++ call :: later) (session : LoadSession)
    (stage : LoadStage) (events : List LoadEvent) :
    (traffic.reach before.length session stage events).calls
      = before ++ ⟨call.provider, stage⟩ :: later := by
  rw [reach, hcalls, List.modify_eq_take_drop, List.take_left, List.drop_left]
  rfl

/-! ## The invariant -/

/-- What the call of this number has done. -/
def eventsOf (history : List (Nat × LoadEvent)) (number : Nat) : List LoadEvent :=
  (history.filter (·.1 == number)).map (·.2)

theorem eventsOf_append (history more : List (Nat × LoadEvent)) (number : Nat) :
    eventsOf (history ++ more) number = eventsOf history number ++ eventsOf more number := by
  rw [eventsOf, List.filter_append, List.map_append]
  rfl

theorem eventsOf_self (number : Nat) (events : List LoadEvent) :
    eventsOf (events.map (number, ·)) number = events := by
  induction events with
  | nil => rfl
  | cons event rest ih => simpa [eventsOf] using ih

theorem eventsOf_of_ne {number other : Nat} (h : number ≠ other) (events : List LoadEvent) :
    eventsOf (events.map (number, ·)) other = [] := by
  induction events with
  | nil => rfl
  | cons event rest ih => simp [eventsOf, h]

/-- What is true of a session and its calls at all times. -/
structure Orderly (style : DiagramStyle) (traffic : LoadTraffic) : Prop where
  sameStyle : traffic.session.style = style
  /-- One call holds the session if it is claimed, and none if it is free. -/
  running : traffic.calls.countP LoadCall.isRunning = traffic.session.loading.toNat
  /-- Behind a call that is still running there are only refused ones. -/
  behind : traffic.calls.Pairwise fun call later =>
    call.isRunning = true → later.stage = .refused
  /-- The current index is that of the last call that has installed one. -/
  current : traffic.session.current = (traffic.calls.filterMap LoadCall.index?).getLast?
  /-- The indexes were installed in the order of the calls. -/
  installs : traffic.history.filterMap (·.2.index?) = traffic.calls.filterMap LoadCall.index?
  /-- Each call has done what its stage takes, and nothing else. -/
  events : ∀ number, eventsOf traffic.history number
    = (traffic.calls[number]?.map (·.stage.events)).getD []
  /-- What comes of a call is what its own provider leads to. -/
  outcome : ∀ call ∈ traffic.calls, ∀ result, call.stage.outcome? = some result →
    Index.ofProvider style call.provider = result

theorem orderly_start (style : DiagramStyle) : (start style).Orderly style where
  sameStyle := rfl
  running := rfl
  behind := List.Pairwise.nil
  current := rfl
  installs := rfl
  events _ := rfl
  outcome _ hcall := absurd hcall List.not_mem_nil

theorem countP_isRunning_eq_zero {calls : List LoadCall}
    (h : ∀ call ∈ calls, call.isRunning = false) : calls.countP LoadCall.isRunning = 0 := by
  refine List.countP_eq_zero.2 fun call hcall => ?_
  rw [h call hcall]
  exact Bool.false_ne_true

theorem isRunning_of_refused {call : LoadCall} (h : call.stage = .refused) :
    call.isRunning = false := by
  rw [LoadCall.isRunning, h]
  rfl

theorem filterMap_index?_of_refused {calls : List LoadCall}
    (h : ∀ call ∈ calls, call.stage = .refused) : calls.filterMap LoadCall.index? = [] := by
  refine List.filterMap_eq_nil_iff.2 fun call hcall => ?_
  rw [LoadCall.index?, h call hcall]
  rfl

/-- What the calls up to one have installed, if those behind it were refused. -/
theorem filterMap_index?_split {before later : List LoadCall} {call : LoadCall}
    (h : ∀ other ∈ later, other.stage = .refused) :
    (before ++ call :: later).filterMap LoadCall.index?
      = before.filterMap LoadCall.index? ++ call.stage.events.filterMap LoadEvent.index? := by
  rw [List.filterMap_append, ← List.singleton_append, List.filterMap_append,
    filterMap_index?_of_refused h, List.append_nil, LoadCall.filterMap_index?_singleton]

namespace Orderly

variable {style : DiagramStyle} {traffic : LoadTraffic}

/-- Around a running call no other one is running, and those behind it were refused. -/
theorem around {before later : List LoadCall} {call : LoadCall} (h : traffic.Orderly style)
    (hcalls : traffic.calls = before ++ call :: later) (hrunning : call.isRunning = true) :
    traffic.session.loading = true ∧ (∀ other ∈ before, other.isRunning = false)
      ∧ ∀ other ∈ later, other.stage = .refused := by
  have hcount := h.running
  rw [hcalls, List.countP_append, List.countP_cons_of_pos hrunning] at hcount
  have hbehind := h.behind
  rw [hcalls, List.pairwise_append, List.pairwise_cons] at hbehind
  refine ⟨?_, fun other hother => ?_, fun other hother => hbehind.2.1.1 other hother hrunning⟩
  · by_contra hfree
    rw [Bool.not_eq_true] at hfree
    rw [hfree, Bool.toNat_false] at hcount
    omega
  · have hle := Bool.toNat_le traffic.session.loading
    have hnone : before.countP LoadCall.isRunning = 0 := by omega
    exact Bool.eq_false_iff.2 (List.countP_eq_zero.1 hnone other hother)

/-- **A running call gets on.** It may install an index, and it keeps the session claimed as
long as it is running. -/
theorem reach {number : Nat} {call : LoadCall} {session : LoadSession} {stage : LoadStage}
    {events : List LoadEvent} (h : traffic.Orderly style)
    (hcall : traffic.calls[number]? = some call) (hrunning : call.isRunning = true)
    (hstyle : session.style = traffic.session.style)
    (hloading : session.loading = stage.isRunning)
    (hcurrent : session.current
      = (events.filterMap LoadEvent.index?).getLast?.or traffic.session.current)
    (hevents : stage.events = call.stage.events ++ events)
    (houtcome : ∀ result, stage.outcome? = some result →
      Index.ofProvider style call.provider = result) :
    (traffic.reach number session stage events).Orderly style := by
  obtain ⟨before, later, hcalls, rfl⟩ := exists_split hcall
  obtain ⟨_, hbefore, hlater⟩ := h.around hcalls hrunning
  have hnew := calls_reach hcalls session stage events
  -- the calls behind it were refused, so whatever it installs is installed last
  have hindex : (traffic.reach before.length session stage events).calls.filterMap
      LoadCall.index?
      = traffic.calls.filterMap LoadCall.index? ++ events.filterMap LoadEvent.index? := by
    rw [hnew, hcalls, filterMap_index?_split hlater, filterMap_index?_split hlater, hevents,
      List.filterMap_append, List.append_assoc]
  refine ⟨hstyle.trans h.sameStyle, ?_, ?_, ?_, ?_, fun other => ?_, ?_⟩
  · rw [hnew, List.countP_append, List.countP_cons, countP_isRunning_eq_zero hbefore,
      countP_isRunning_eq_zero fun other hother => isRunning_of_refused (hlater other hother)]
    show _ = session.loading.toNat
    rw [hloading, LoadCall.isRunning]
    cases stage.isRunning <;> rfl
  · have hbehind := h.behind
    rw [hcalls, List.pairwise_append, List.pairwise_cons] at hbehind
    rw [hnew, List.pairwise_append, List.pairwise_cons]
    refine ⟨hbehind.1, ⟨fun other hother _ => hlater other hother, hbehind.2.1.2⟩, ?_⟩
    intro other hother _ _ hrun
    exact absurd hrun (Bool.eq_false_iff.1 (hbefore other hother))
  · rw [hindex, List.getLast?_append, ← h.current]
    exact hcurrent
  · rw [hindex, ← h.installs, LoadTraffic.reach, List.filterMap_append, List.filterMap_map]
    rfl
  · rw [LoadTraffic.reach, eventsOf_append, h.events]
    by_cases hother : before.length = other
    · subst hother
      rw [eventsOf_self, List.getElem?_modify_eq, hcall]
      exact hevents.symm
    · rw [eventsOf_of_ne hother, List.append_nil, List.getElem?_modify_ne _ _ hother]
  · intro other hother result hresult
    rw [hnew, List.mem_append, List.mem_cons] at hother
    rcases hother with hmem | rfl | hmem
    · exact h.outcome other (hcalls ▸ List.mem_append_left _ hmem) result hresult
    · exact houtcome result hresult
    · exact h.outcome other
        (hcalls ▸ List.mem_append_right _ (List.mem_cons_of_mem _ hmem)) result hresult

/-- **A call comes in.** It gets hold of the session only if that is free. -/
theorem join {session : LoadSession} {provider : Provider} {stage : LoadStage}
    (h : traffic.Orderly style) (hstyle : session.style = traffic.session.style)
    (hcurrent : session.current = traffic.session.current)
    (hloading : session.loading.toNat
      = traffic.session.loading.toNat + stage.isRunning.toNat)
    (hrefused : traffic.session.loading = true → stage = .refused)
    (hindex : stage.index? = none) (houtcome : stage.outcome? = none) :
    (traffic.join session provider stage).Orderly style := by
  have hnone : [LoadCall.mk provider stage].filterMap LoadCall.index? = [] :=
    List.filterMap_cons_none hindex
  have hall : (traffic.join session provider stage).calls.filterMap LoadCall.index?
      = traffic.calls.filterMap LoadCall.index? := by
    rw [LoadTraffic.join, List.filterMap_append, hnone, List.append_nil]
  refine ⟨hstyle.trans h.sameStyle, ?_, ?_, ?_, ?_, fun number => ?_, ?_⟩
  · show (traffic.calls ++ [_]).countP _ = session.loading.toNat
    rw [List.countP_append, h.running, hloading, List.countP_singleton, LoadCall.isRunning]
    cases stage.isRunning <;> rfl
  · rw [LoadTraffic.join, List.pairwise_append]
    refine ⟨h.behind, List.pairwise_singleton _ _, fun call hcall last hlast hrunning => ?_⟩
    obtain rfl := List.mem_singleton.1 hlast
    obtain ⟨before, later, hcalls⟩ := List.append_of_mem hcall
    exact hrefused (h.around hcalls hrunning).1
  · rw [hall, ← h.current]
    exact hcurrent
  · rw [hall, ← h.installs, LoadTraffic.join, List.filterMap_append, List.filterMap_map]
    show _ ++ stage.events.filterMap LoadEvent.index? = _
    rw [LoadStage.filterMap_index?_events, hindex, Option.toList_none, List.append_nil]
  · rw [LoadTraffic.join, eventsOf_append, h.events]
    by_cases hnumber : traffic.calls.length = number
    · subst hnumber
      rw [eventsOf_self, List.getElem?_append_right (Nat.le_refl _), Nat.sub_self,
        List.getElem?_eq_none (Nat.le_refl _)]
      rfl
    · rw [eventsOf_of_ne hnumber, List.append_nil]
      rcases Nat.lt_or_gt_of_ne hnumber with hlt | hgt
      · rw [List.getElem?_eq_none (Nat.le_of_lt hlt), List.getElem?_eq_none]
        rw [List.length_append, List.length_singleton]
        exact hlt
      · rw [List.getElem?_append_left hgt]
  · intro call hcall result hresult
    rcases List.mem_append.1 hcall with hmem | hmem
    · exact h.outcome call hmem result hresult
    · obtain rfl := List.mem_singleton.1 hmem
      rw [houtcome] at hresult
      exact absurd hresult (by simp)

theorem begin (h : traffic.Orderly style) (provider : Provider) :
    (traffic.begin provider).Orderly style := by
  cases hloading : traffic.session.loading with
  | true =>
      rw [begin_of_loading hloading]
      exact h.join rfl rfl rfl (fun _ => rfl) rfl rfl
  | false =>
      rw [begin_of_free hloading]
      refine h.join rfl rfl ?_ (fun hclaimed => ?_) rfl rfl
      · rw [hloading]
        rfl
      · exact absurd (hloading.symm.trans hclaimed) Bool.false_ne_true

theorem goOn (h : traffic.Orderly style) (number : Nat) :
    (traffic.goOn number).Orderly style := by
  unfold LoadTraffic.goOn
  cases hcall : traffic.calls[number]? with
  | none => exact h
  | some call =>
      obtain ⟨before, later, hcalls, _⟩ := exists_split hcall
      have hclaimed := fun hrunning => (h.around hcalls hrunning).1
      have houtcome := h.outcome call (List.mem_of_getElem? hcall)
      obtain ⟨provider, stage⟩ := call
      cases stage with
      | refused | ended _ | brokenOff => exact h
      | claimed =>
          refine h.reach hcall rfl rfl (hclaimed rfl) rfl rfl fun result hresult => ?_
          exact absurd hresult (by simp [LoadStage.outcome?])
      | asking requests =>
          cases requests with
          | nil =>
              refine h.reach hcall rfl rfl (hclaimed rfl) rfl rfl fun result hresult => ?_
              rw [← h.sameStyle]
              exact Option.some.inj hresult
          | cons request rest =>
              have hasking : (traffic.reach number traffic.session (.asking rest) []).Orderly
                  style := by
                refine h.reach hcall rfl rfl (hclaimed rfl) rfl rfl fun result hresult => ?_
                exact absurd hresult (by simp [LoadStage.outcome?])
              exact hasking.begin request
      | built result =>
          cases result with
          | ok index => exact h.reach hcall rfl rfl (hclaimed rfl) rfl rfl houtcome
          | error failure => exact h.reach hcall rfl rfl rfl rfl rfl houtcome
      | installed index => exact h.reach hcall rfl rfl rfl rfl rfl houtcome

theorem breakOff (h : traffic.Orderly style) (number : Nat) :
    (traffic.breakOff number).Orderly style := by
  unfold LoadTraffic.breakOff
  split
  next requests hcall =>
    refine h.reach hcall rfl rfl rfl rfl rfl fun result hresult => ?_
    exact absurd hresult (by simp [LoadStage.outcome?])
  · exact h

/-- **The invariant is preserved by every move.** -/
theorem perform (h : traffic.Orderly style) (move : LoadMove) :
    (traffic.perform move).Orderly style := by
  cases move with
  | call provider => exact h.begin provider
  | goOn number => exact h.goOn number
  | breakOff number => exact h.breakOff number

end Orderly

theorem orderly_run (style : DiagramStyle) (moves : List LoadMove) :
    ((start style).run moves).Orderly style :=
  run_preserves (fun _ move h => h.perform move) (orderly_start style) moves

/-! ## A call that is over stays as it is -/

theorem getElem?_begin {traffic : LoadTraffic} {number : Nat} {call : LoadCall}
    (h : traffic.calls[number]? = some call) (provider : Provider) :
    (traffic.begin provider).calls[number]? = some call := by
  have hlt : number < traffic.calls.length := (List.getElem?_eq_some_iff.1 h).1
  unfold begin
  split <;> rw [join, List.getElem?_append_left hlt, h]

theorem getElem?_reach_of_ne {traffic : LoadTraffic} {number other : Nat} {call : LoadCall}
    (h : traffic.calls[other]? = some call) (hne : number ≠ other) (session : LoadSession)
    (stage : LoadStage) (events : List LoadEvent) :
    (traffic.reach number session stage events).calls[other]? = some call := by
  rw [reach, List.getElem?_modify_ne _ _ hne, h]

theorem getElem?_goOn_of_ne {traffic : LoadTraffic} {number other : Nat} {call : LoadCall}
    (h : traffic.calls[other]? = some call) (hne : number ≠ other) :
    (traffic.goOn number).calls[other]? = some call := by
  unfold goOn
  cases traffic.calls[number]? with
  | none => exact h
  | some call =>
      obtain ⟨provider, stage⟩ := call
      cases stage with
      | refused | ended _ | brokenOff => exact h
      | claimed | installed _ => exact getElem?_reach_of_ne h hne _ _ _
      | asking requests =>
          cases requests with
          | nil => exact getElem?_reach_of_ne h hne _ _ _
          | cons request rest =>
              exact getElem?_begin (getElem?_reach_of_ne h hne _ _ _) request
      | built result =>
          cases result with
          | ok index => exact getElem?_reach_of_ne h hne _ _ _
          | error failure => exact getElem?_reach_of_ne h hne _ _ _

theorem getElem?_perform_of_idle {traffic : LoadTraffic} {number : Nat} {call : LoadCall}
    (h : traffic.calls[number]? = some call) (hidle : call.isRunning = false)
    (move : LoadMove) : (traffic.perform move).calls[number]? = some call := by
  obtain ⟨provider, stage⟩ := call
  cases move with
  | call other => exact getElem?_begin h other
  | goOn other =>
      by_cases hother : other = number
      · subst hother
        rw [perform, goOn, h]
        cases stage with
        | refused | ended _ | brokenOff => exact h
        | claimed | asking _ | built _ | installed _ =>
            exact absurd hidle (by simp [LoadCall.isRunning, LoadStage.isRunning])
      · exact getElem?_goOn_of_ne h hother
  | breakOff other =>
      rw [perform, breakOff]
      split
      next broken requests hbroken =>
        by_cases hother : other = number
        · subst hother
          rw [h] at hbroken
          obtain ⟨rfl, rfl⟩ := LoadCall.mk.inj (Option.some.inj hbroken)
          exact absurd hidle (by simp [LoadCall.isRunning, LoadStage.isRunning])
        · exact getElem?_reach_of_ne h hother _ _ _
      · exact h

/-! ## A load in one go is one of the interleavings -/

/-- Some moves lead to this state of the session and these calls. -/
def Leads (traffic : LoadTraffic) (session : LoadSession) (calls : List LoadCall) : Prop :=
  ∃ moves, (traffic.run moves).session = session ∧ (traffic.run moves).calls = calls

namespace Leads

variable {traffic : LoadTraffic} {session session' : LoadSession} {calls calls' : List LoadCall}
  {before later : List LoadCall} {provider : Provider} {stage stage' : LoadStage}

theorem move (h : traffic.Leads session calls) (next : LoadMove)
    (hnext : ∀ reached : LoadTraffic, reached.session = session → reached.calls = calls →
      (reached.perform next).session = session' ∧ (reached.perform next).calls = calls') :
    traffic.Leads session' calls' := by
  obtain ⟨moves, hsession, hcalls⟩ := h
  refine ⟨moves ++ [next], ?_⟩
  rw [run_append]
  exact hnext _ hsession hcalls

theorem goOn (h : traffic.Leads session (before ++ ⟨provider, stage⟩ :: later))
    (hnext : ∀ reached : LoadTraffic, reached.session = session →
      reached.calls[before.length]? = some ⟨provider, stage⟩ →
      ∃ events, reached.goOn before.length
        = reached.reach before.length session' stage' events) :
    traffic.Leads session' (before ++ ⟨provider, stage'⟩ :: later) := by
  refine h.move (.goOn before.length) fun reached hsession hcalls => ?_
  have hcall : reached.calls[before.length]? = some ⟨provider, stage⟩ := by
    rw [hcalls, List.getElem?_append_right (Nat.le_refl _), Nat.sub_self]
    rfl
  obtain ⟨events, hgoOn⟩ := hnext reached hsession hcall
  rw [perform, hgoOn]
  exact ⟨rfl, calls_reach hcalls _ _ _⟩

/-- While the provider is asked, every load that it asks for is refused. -/
theorem ask {requests : List Provider} (hloading : session.loading = true)
    (h : traffic.Leads session (before ++ ⟨provider, .asking requests⟩ :: later)) :
    traffic.Leads session
      (before ++ ⟨provider, .asking []⟩ :: (later ++ requests.map (⟨·, .refused⟩))) := by
  induction requests generalizing later with
  | nil => rwa [List.map_nil, List.append_nil]
  | cons request rest ih =>
      rw [List.map_cons, List.append_cons later]
      refine ih (h.move (.goOn before.length) fun reached hsession hcalls => ?_)
      have hcall : reached.calls[before.length]? = some ⟨provider, .asking (request :: rest)⟩ := by
        rw [hcalls, List.getElem?_append_right (Nat.le_refl _), Nat.sub_self]
        rfl
      have hbusy : (reached.reach before.length reached.session (.asking rest) []).session.loading
          = true := by
        rw [reach, hsession, hloading]
      rw [perform, LoadTraffic.goOn, hcall]
      dsimp only
      rw [begin_of_loading hbusy, join, calls_reach hcalls, List.append_assoc]
      exact ⟨hsession, rfl⟩

end Leads

theorem load_of_loading {session : LoadSession} (h : session.loading = true)
    (provider : Provider) : session.load provider = (session, { result := .error .busy }) := by
  obtain ⟨requests, projects⟩ := provider
  rw [LoadSession.load, LoadSession.claim?, if_pos h]

theorem loadAll_of_loading {session : LoadSession} (h : session.loading = true)
    (providers : List Provider) :
    session.loadAll providers = (session, providers.map fun _ => ⟨true, .error .busy⟩) := by
  induction providers with
  | nil => rfl
  | cons provider rest ih =>
      rw [LoadSession.loadAll, load_of_loading h]
      dsimp only
      rw [ih, h]
      rfl

/-- In a free session a load comes to its end, and the loads that its provider asks for are
refused. -/
theorem load_of_free {session : LoadSession} (h : session.loading = false)
    (provider : Provider) :
    session.load provider
      = ({ session with loading := true }.conclude (Index.ofProvider session.style provider),
          { result := Index.ofProvider session.style provider
            inner := provider.requests.map fun _ => ⟨true, .error .busy⟩ }) := by
  obtain ⟨requests, projects⟩ := provider
  rw [LoadSession.load, LoadSession.claim?, if_neg (by simp [h])]
  dsimp only
  rw [loadAll_of_loading rfl]
  rfl

/-- A call that has claimed the session can go on until it is over, with nobody in between but
the loads that its own provider asks for. -/
theorem leads_conclude {traffic : LoadTraffic} {claimed : LoadSession} {provider : Provider}
    {before : List LoadCall} (hloading : claimed.loading = true)
    (h : traffic.Leads claimed (before ++ ⟨provider, .claimed⟩ :: [])) :
    traffic.Leads (claimed.conclude (Index.ofProvider claimed.style provider))
      (before ++ ⟨provider, .ended (Index.ofProvider claimed.style provider)⟩
        :: provider.requests.map (⟨·, .refused⟩)) := by
  have hasking : traffic.Leads claimed (before ++ ⟨provider, .asking provider.requests⟩ :: []) :=
    h.goOn fun reached hsession hcall => ⟨[.asked], by rw [goOn, hcall, ← hsession]⟩
  have hbuilt : traffic.Leads claimed
      (before ++ ⟨provider, .built (Index.ofProvider claimed.style provider)⟩
        :: provider.requests.map (⟨·, .refused⟩)) :=
    (Leads.ask hloading hasking).goOn fun reached hsession hcall =>
      ⟨[], by rw [goOn, hcall, ← hsession]⟩
  cases hresult : Index.ofProvider claimed.style provider with
  | error failure =>
      rw [hresult] at hbuilt
      exact hbuilt.goOn fun reached hsession hcall =>
        ⟨[.released], by rw [goOn, hcall, ← hsession]; rfl⟩
  | ok index =>
      rw [hresult] at hbuilt
      have hinstalled : traffic.Leads (claimed.install index)
          (before ++ ⟨provider, .installed index⟩
            :: provider.requests.map (⟨·, .refused⟩)) :=
        hbuilt.goOn fun reached hsession hcall =>
          ⟨[.installed index], by rw [goOn, hcall, ← hsession]⟩
      exact hinstalled.goOn fun reached hsession hcall =>
        ⟨[.released], by rw [goOn, hcall, hsession]; rfl⟩

/-- **A load in one go is one of the interleavings**: its caller and the loads that its provider
asks for are told the same, and the session is left the same. -/
theorem exists_run_load (traffic : LoadTraffic) (provider : Provider) :
    ∃ moves stage others,
      (traffic.run moves).session = (traffic.session.load provider).1
        ∧ (traffic.run moves).calls = traffic.calls ++ ⟨provider, stage⟩ :: others
        ∧ stage.result? = some (traffic.session.load provider).2.result
        ∧ others.map (·.stage.result?)
          = (traffic.session.load provider).2.inner.map (some ·.result) := by
  cases hloading : traffic.session.loading with
  | true =>
      refine ⟨[.call provider], .refused, [], ?_⟩
      show (traffic.begin provider).session = _ ∧ (traffic.begin provider).calls = _ ∧ _
      rw [begin_of_loading hloading, load_of_loading hloading]
      exact ⟨rfl, rfl, rfl, rfl⟩
  | false =>
      have hclaimed : traffic.Leads { traffic.session with loading := true }
          (traffic.calls ++ ⟨provider, .claimed⟩ :: []) := by
        refine ⟨[.call provider], ?_⟩
        show (traffic.begin provider).session = _ ∧ (traffic.begin provider).calls = _
        rw [begin_of_free hloading]
        exact ⟨rfl, rfl⟩
      obtain ⟨moves, hsession, hcalls⟩ := leads_conclude rfl hclaimed
      rw [load_of_free hloading]
      refine ⟨moves, _, _, hsession, hcalls, rfl, ?_⟩
      rw [List.map_map, List.map_map]
      rfl

/-! ## What holds at all times -/

theorem countP_le_one {style : DiagramStyle} {traffic : LoadTraffic}
    (h : traffic.Orderly style) : traffic.calls.countP LoadCall.isRunning ≤ 1 := by
  rw [h.running]
  exact Bool.toNat_le _

theorem loading_iff {style : DiagramStyle} {traffic : LoadTraffic} (h : traffic.Orderly style) :
    traffic.session.loading = true ↔ ∃ call ∈ traffic.calls, call.isRunning = true := by
  rw [← List.countP_pos_iff, h.running]
  cases traffic.session.loading <;> simp

/-- A call that finds the session claimed is refused at once and for ever. -/
theorem refused_of_loading {style : DiagramStyle} {traffic : LoadTraffic}
    (h : traffic.Orderly style) (hloading : traffic.session.loading = true)
    (provider : Provider) (more : List LoadMove) :
    let next := traffic.perform (.call provider)
    next.session = traffic.session ∧ next.calls = traffic.calls ++ [⟨provider, .refused⟩]
      ∧ (next.run more).calls[traffic.calls.length]?.bind (·.stage.result?)
        = some (.error .busy)
      ∧ eventsOf (next.run more).history traffic.calls.length = [.refused] := by
  intro next
  have hnext : next = traffic.join traffic.session provider .refused :=
    begin_of_loading hloading provider
  have hnow : next.calls[traffic.calls.length]? = some ⟨provider, .refused⟩ := by
    rw [hnext, join, List.getElem?_append_right (Nat.le_refl _), Nat.sub_self]
    rfl
  have hlater : (next.run more).calls[traffic.calls.length]? = some ⟨provider, .refused⟩ :=
    run_preserves (P := fun later => later.calls[traffic.calls.length]? = some _)
      (fun _ move hcall => getElem?_perform_of_idle hcall rfl move) hnow more
  have horderly : (next.run more).Orderly style :=
    run_preserves (fun _ move h => h.perform move) (h.perform (.call provider)) more
  refine ⟨by rw [hnext]; rfl, by rw [hnext]; rfl, by rw [hlater]; rfl, ?_⟩
  rw [horderly.events, hlater]
  rfl

/-- A call that is over has installed the index if there was one, and nothing else. -/
theorem index?_of_ended {style : DiagramStyle} {traffic : LoadTraffic}
    (h : traffic.Orderly style) {call : LoadCall} (hcall : call ∈ traffic.calls)
    {result : Except Failure Index} (hended : call.stage = .ended result) :
    Index.ofProvider style call.provider = result ∧ call.index? = result.toOption := by
  refine ⟨h.outcome call hcall result (by rw [hended]; rfl), ?_⟩
  rw [LoadCall.index?, hended]
  cases result <;> rfl

/-- What a call has installed is what its own provider leads to. -/
theorem ofProvider_of_index? {style : DiagramStyle} {traffic : LoadTraffic}
    (h : traffic.Orderly style) {call : LoadCall} (hcall : call ∈ traffic.calls)
    {index : Index} (hindex : call.index? = some index) :
    Index.ofProvider style call.provider = .ok index := by
  refine h.outcome call hcall (.ok index) ?_
  unfold LoadCall.index? at hindex
  cases hstage : call.stage with
  | installed other =>
      rw [hstage] at hindex
      exact congrArg (some ∘ Except.ok) (Option.some.inj hindex)
  | ended result =>
      rw [hstage] at hindex
      cases result with
      | ok other => exact congrArg (some ∘ Except.ok) (Option.some.inj hindex)
      | error failure => exact absurd hindex (by simp [LoadStage.index?])
  | refused | claimed | asking _ | built _ | brokenOff =>
      rw [hstage] at hindex
      exact absurd hindex (by simp [LoadStage.index?])

/-- **Loads do not get in each other's way.** However the steps of any number of calls
interleave, the session is claimed by at most one of them, and free if none of them is running.
A call that finds it claimed is told so, asks its provider for nothing and changes nothing. The
current index is the one that was installed last; the indexes are installed in the order in
which the loads were accepted, one for each that succeeded and none for any other. And to load
in one go is one of these interleavings. -/
theorem run_installs_in_order (style : DiagramStyle) (moves : List LoadMove) :
    let traffic := (start style).run moves
    traffic.calls.countP LoadCall.isRunning ≤ 1
      ∧ (traffic.session.loading = true ↔ ∃ call ∈ traffic.calls, call.isRunning = true)
      ∧ (traffic.session.loading = true → ∀ provider more,
          let next := traffic.perform (.call provider)
          next.session = traffic.session
            ∧ next.calls = traffic.calls ++ [⟨provider, .refused⟩]
            ∧ (next.run more).calls[traffic.calls.length]?.bind (·.stage.result?)
              = some (.error .busy)
            ∧ eventsOf (next.run more).history traffic.calls.length = [.refused])
      ∧ traffic.session.current = (traffic.history.filterMap (·.2.index?)).getLast?
      ∧ traffic.history.filterMap (·.2.index?) = traffic.calls.filterMap LoadCall.index?
      ∧ (∀ call ∈ traffic.calls, ∀ index, call.index? = some index →
          Index.ofProvider style call.provider = .ok index)
      ∧ (∀ call ∈ traffic.calls, ∀ result, call.stage = .ended result →
          Index.ofProvider style call.provider = result ∧ call.index? = result.toOption)
      ∧ ∀ provider, ∃ more stage others,
          (traffic.run more).session = (traffic.session.load provider).1
            ∧ (traffic.run more).calls = traffic.calls ++ ⟨provider, stage⟩ :: others
            ∧ stage.result? = some (traffic.session.load provider).2.result
            ∧ others.map (·.stage.result?)
              = (traffic.session.load provider).2.inner.map (some ·.result) := by
  intro traffic
  have h : traffic.Orderly style := orderly_run style moves
  refine ⟨countP_le_one h, loading_iff h, refused_of_loading h, ?_, h.installs, ?_, ?_,
    exists_run_load traffic⟩
  · rw [h.installs]
    exact h.current
  · exact fun call hcall index => ofProvider_of_index? h hcall
  · exact fun call hcall result => index?_of_ended h hcall

end LoadTraffic

end ClassDiagram
