import Mathlib.Tactic.Common
import Watchtower.Compilation
import Watchtower.Proofs.Bookkeeping
import Watchtower.Proofs.Store

/-!
Runs of a system, one move at a time.

A move is the smallest thing that happens while nothing else does: an operation on the engine, one
visit of an attestation to a watcher, one move of the dispatcher, or the beginning or the end of one
action. Moves come in any order, also in the middle of an attestation that has several watchers to
visit. A move that is out of place is no move (`System.step?`), and one that is in place does one of
a few things (`System.Step`).
-/

namespace Watchtower

/-- What each step keeps, steps one after the other keep. -/
theorem foldlM_keeps {α β : Type} {step : α → β → Option α} {P : α → Prop} {bs : List β}
    (hstep : ∀ {x b y}, b ∈ bs → step x b = some y → P x → P y) {x y : α} (hx : P x)
    (h : bs.foldlM step x = some y) : P y := by
  induction bs generalizing x with
  | nil =>
    obtain rfl := Option.some.inj h
    exact hx
  | cons b bs ih =>
    rw [List.foldlM_cons] at h
    obtain ⟨z, hz, hrest⟩ := Option.bind_eq_some_iff.1 h
    exact ih (fun hb => hstep (List.mem_cons_of_mem _ hb)) (hstep List.mem_cons_self hz hx) hrest

/-- The smallest things that happen to a system. -/
inductive Move where
  | start (outage : Outage) (hasRuntime : Bool)
  | stop
  | reload (outage : Outage)
  | compile (outage : Outage) (resolver : Resolver) (config : CompilerConfig) (now : Moment)
      (c : Composition)
  | cleanUp (outage : Outage) (composition : String)
  /-- Somebody changes the store. -/
  | change (c : StoreChange)
  /-- An attestation comes in. -/
  | arrive (a : Attestation)
  /-- An attestation that has come in is shown to a watcher. -/
  | visit (es : Evaluators) (now : Nat) (a : Attestation) (w : Watcher)
  /-- The dispatcher runs for the first time. -/
  | wake
  /-- The dispatcher moves. -/
  | proceed
  /-- The action of a flight is invoked and comes to a gate of the host. -/
  | invoke (index gate : Nat)
  /-- An action that has been invoked ends. -/
  | finish (outage : Outage) (now : Moment) (index : Nat) (outcome : Except Fault Unit)
  /-- A flight ends for want of an invoker. -/
  | giveUp (outage : Outage) (now : Moment) (index : Nat)

namespace Move

/-- The move shows an attestation to a watcher. -/
def isVisit : Move → Bool
  | .visit .. => true
  | _ => false

end Move

/-- What a move means to the messages on their way. -/
inductive Effect where
  | none
  /-- The queue has taken a message. -/
  | accepted (m : Message)
  /-- The dispatcher has taken the next message in hand. -/
  | taken
  /-- The queue has been dropped. -/
  | discarded
  /-- The message in hand has its permit. -/
  | launched
  | invoked (index : Nat)
  | finished (index : Nat) (outcome : Except Fault Unit) (attempts : List Book)

namespace Effect

/-- A message for the watcher has been queued. -/
def queues (id : String) : Effect → Bool
  | .accepted m => m.watcher.id == id
  | _ => false

end Effect

namespace System

/-- The system with an engine whose dispatch is another one. -/
def withDispatch (s : System) (dispatch : Dispatch) : System :=
  { s with engine := { s.engine with dispatch } }

/-- Shows an attestation to one watcher. -/
def show_ (s : System) (es : Evaluators) (now : Nat) (a : Attestation) (w : Watcher) :
    System × Effect :=
  let x := Intake.visit es now a ⟨s.engine, s.metrics, 0, [], []⟩ w
  ({ s with engine := x.engine, metrics := x.metrics, journal := s.journal ++ x.events },
    if x.queued = 0 then .none else .accepted ⟨w, a⟩)

/-- Ends a flight with an outcome. -/
def finish (s : System) (outage : Outage) (now : Moment) (index : Nat) (m : Message)
    (outcome : Except Fault Unit) : System × Effect :=
  let (s, attempts) := (s.withDispatch (s.engine.dispatch.land index)).settle outage now m outcome
  (s, .finished index outcome attempts)

/-- What a move of the dispatcher means. -/
def effectOf (d : Dispatch) (stopped : Bool) : Effect :=
  match d.receiver with
  | .holding _ => .launched
  | _ => if stopped then .discarded else .taken

/-- What a start means: one that fails drops the queue. -/
def effectOfStart (before after : Dispatch) : Effect :=
  if before.isOpen && !after.isOpen then .discarded else .none

/-- A move, if it is in place. -/
def step? (s : System) : Move → Option (System × Effect)
  | .start outage hasRuntime =>
    let t := (s.start outage hasRuntime).1
    some (t, effectOfStart s.engine.dispatch t.engine.dispatch)
  | .stop => some (s.stop, .none)
  | .reload outage => some ((s.reload outage).1, .none)
  | .compile outage resolver config now c =>
    some ((s.compile outage resolver config now c).1, .none)
  | .cleanUp outage composition => some ((s.cleanUp outage composition).1, .none)
  | .change c => some ({ s with store := s.store.apply c }, .none)
  | .arrive a =>
    if s.engine.isRunning then
      some ({ s with metrics := { s.metrics with evaluated := s.metrics.evaluated + 1 } }, .none)
    else some (s.note [.ignoredAttestation a.id], .none)
  | .visit es now a w => if s.engine.dispatching then some (s.show_ es now a w) else none
  | .wake =>
    match s.engine.dispatch.receiver with
    | .waking =>
      some ((s.withDispatch { s.engine.dispatch with receiver := .waiting }).note
        [.dispatcherStarted], .none)
    | _ => none
  | .proceed =>
    (s.engine.dispatch.move? s.engine.stopped).map fun (dispatch, said) =>
      ((s.withDispatch dispatch).note said, effectOf s.engine.dispatch s.engine.stopped)
  | .invoke index gate =>
    match s.engine.dispatch.flights[index]? with
    | some ⟨_, none⟩ => some (s.withDispatch (s.engine.dispatch.invoke index gate), .invoked index)
    | _ => none
  | .finish outage now index outcome =>
    match s.engine.dispatch.flights[index]? with
    | some ⟨m, some _⟩ => some (s.finish outage now index m outcome)
    | _ => none
  | .giveUp outage now index =>
    match s.engine.dispatch.flights[index]? with
    | some ⟨m, none⟩ => some (s.finish outage now index m (.error (.dispatch .noInvoker)))
    | _ => none

/-- What moves that are in place do. -/
inductive Step (s : System) : Move → System → Effect → Prop where
  | start (outage : Outage) (hasRuntime : Bool) :
      Step s (.start outage hasRuntime) (s.start outage hasRuntime).1
        (effectOfStart s.engine.dispatch (s.start outage hasRuntime).1.engine.dispatch)
  | stop : Step s .stop s.stop .none
  | reload (outage : Outage) : Step s (.reload outage) (s.reload outage).1 .none
  | compile (outage : Outage) (resolver : Resolver) (config : CompilerConfig) (now : Moment)
      (c : Composition) :
      Step s (.compile outage resolver config now c) (s.compile outage resolver config now c).1 .none
  | cleanUp (outage : Outage) (composition : String) :
      Step s (.cleanUp outage composition) (s.cleanUp outage composition).1 .none
  | change (c : StoreChange) : Step s (.change c) { s with store := s.store.apply c } .none
  | arrive (a : Attestation) (h : s.engine.isRunning = true) :
      Step s (.arrive a)
        { s with metrics := { s.metrics with evaluated := s.metrics.evaluated + 1 } } .none
  | ignore (a : Attestation) (h : ¬ s.engine.isRunning = true) :
      Step s (.arrive a) (s.note [.ignoredAttestation a.id]) .none
  | visit (es : Evaluators) (now : Nat) (a : Attestation) (w : Watcher)
      (h : s.engine.dispatching = true) :
      Step s (.visit es now a w) (s.show_ es now a w).1 (s.show_ es now a w).2
  | wake (h : s.engine.dispatch.receiver = .waking) :
      Step s .wake ((s.withDispatch { s.engine.dispatch with receiver := .waiting }).note
        [.dispatcherStarted]) .none
  | proceed {d : Dispatch} {said : List Event}
      (h : s.engine.dispatch.move? s.engine.stopped = some (d, said)) :
      Step s .proceed ((s.withDispatch d).note said)
        (effectOf s.engine.dispatch s.engine.stopped)
  | invoke (index gate : Nat) {m : Message}
      (h : s.engine.dispatch.flights[index]? = some ⟨m, none⟩) :
      Step s (.invoke index gate) (s.withDispatch (s.engine.dispatch.invoke index gate))
        (.invoked index)
  | finish (outage : Outage) (now : Moment) (index : Nat) (outcome : Except Fault Unit) {m : Message}
      {gate : Nat} (h : s.engine.dispatch.flights[index]? = some ⟨m, some gate⟩) :
      Step s (.finish outage now index outcome) (s.finish outage now index m outcome).1
        (s.finish outage now index m outcome).2
  | giveUp (outage : Outage) (now : Moment) (index : Nat) {m : Message}
      (h : s.engine.dispatch.flights[index]? = some ⟨m, none⟩) :
      Step s (.giveUp outage now index)
        (s.finish outage now index m (.error (.dispatch .noInvoker))).1
        (s.finish outage now index m (.error (.dispatch .noInvoker))).2

theorem step_of_step? {s t : System} {m : Move} {e : Effect} (h : s.step? m = some (t, e)) :
    Step s m t e := by
  cases m with
  | start | stop | reload | compile | cleanUp | change =>
    obtain ⟨rfl, rfl⟩ := Prod.mk.inj (Option.some.inj h)
    constructor
  | arrive a =>
    simp only [step?] at h
    split at h
    · next hr =>
      obtain ⟨rfl, rfl⟩ := Prod.mk.inj (Option.some.inj h)
      exact .arrive a hr
    · next hr =>
      obtain ⟨rfl, rfl⟩ := Prod.mk.inj (Option.some.inj h)
      exact .ignore a hr
  | proceed =>
    obtain ⟨⟨d, said⟩, hd, he⟩ := Option.map_eq_some_iff.1 h
    obtain ⟨rfl, rfl⟩ := Prod.mk.inj he
    exact .proceed hd
  | visit | wake | invoke | finish | giveUp =>
    -- out of place they are no moves
    simp only [step?] at h
    split at h
    · next hplace =>
      obtain ⟨rfl, rfl⟩ := Prod.mk.inj (Option.some.inj h)
      constructor
      exact hplace
    · cases h

/-! ### Runs -/

/-- Moves one after the other, if all of them are in place. -/
def run? (s : System) (ms : List Move) : Option System :=
  ms.foldlM (fun s m => (s.step? m).map Prod.fst) s

theorem run?_append (s : System) (ms ns : List Move) :
    s.run? (ms ++ ns) = (s.run? ms).bind fun t => t.run? ns := List.foldlM_append

theorem run?_cons_eq_some {s t : System} {m : Move} {ms : List Move} :
    s.run? (m :: ms) = some t ↔ ∃ u e, s.step? m = some (u, e) ∧ u.run? ms = some t := by
  rw [run?, List.foldlM_cons]
  constructor
  · intro h
    obtain ⟨_, hfirst, hrest⟩ := Option.bind_eq_some_iff.1 h
    obtain ⟨⟨u, e⟩, hmove, rfl⟩ := Option.map_eq_some_iff.1 hfirst
    exact ⟨u, e, hmove, hrest⟩
  · rintro ⟨u, e, hmove, hrest⟩
    rw [hmove]
    exact hrest

theorem run?_concat_eq_some {s t : System} {ms : List Move} {m : Move} :
    s.run? (ms ++ [m]) = some t ↔ ∃ u e, s.run? ms = some u ∧ u.step? m = some (t, e) := by
  rw [run?_append, Option.bind_eq_some_iff]
  simp only [run?_cons_eq_some]
  simp [run?, and_comm]

/-- What each move keeps, a run keeps. -/
theorem run?_keeps {P : System → Prop} {ms : List Move}
    (hstep : ∀ {s t : System} {m : Move} {e : Effect}, m ∈ ms → s.step? m = some (t, e) → P s → P t)
    {s t : System} (hs : P s) (h : s.run? ms = some t) : P t := by
  refine foldlM_keeps (P := P) (fun hm hfirst hx => ?_) hs h
  obtain ⟨⟨_, e⟩, hmove, rfl⟩ := Option.map_eq_some_iff.1 hfirst
  exact hstep hm hmove hx

/-- Some moves, one after the other, lead from one system to another one. -/
def Runs (s t : System) : Prop :=
  ∃ ms : List Move, ms.foldlM (fun s m => (s.step? m).map Prod.fst) s = some t

theorem Runs.refl (s : System) : s.Runs s := ⟨[], rfl⟩

theorem Runs.of_step {s t : System} {m : Move} {e : Effect} (h : s.step? m = some (t, e)) :
    s.Runs t := by
  refine ⟨[m], ?_⟩
  rw [List.foldlM_cons, h]
  rfl

theorem Runs.trans {s t u : System} (h : s.Runs t) (h' : t.Runs u) : s.Runs u := by
  obtain ⟨ms, hms⟩ := h
  obtain ⟨ns, hns⟩ := h'
  refine ⟨ms ++ ns, ?_⟩
  rw [List.foldlM_append, hms]
  exact hns

end System

end Watchtower
