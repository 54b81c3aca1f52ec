import Mathlib.Tactic.Common
import Watchtower.Deployment
import Watchtower.Proofs.Run.Ledger

/-!
The host's schedule makes moves and nothing else.

A host interleaves the operations of a system in one particular way: it shows an attestation to all
watchers before anything else happens, and lets the dispatcher and the actions run in turns. Each of
these is a run of moves (`System.runs_attest`, `Deployment.runs_drain`), so whatever holds in all
runs of a system holds in every deployment (`Deployment.drain_conserves`).
-/

namespace Watchtower

namespace System

/-! ### Attestations -/

/-- The system once an attestation has come so far. -/
def after (s : System) (x : Intake) : System :=
  { s with engine := x.engine, metrics := x.metrics, journal := s.journal ++ x.events }

/-- A visit to one watcher carries an attestation one watcher further. -/
theorem after_visit (s : System) (es : Evaluators) (now : Nat) (a : Attestation) (x : Intake)
    (w : Watcher) :
    ((s.after x).show_ es now a w).1 = s.after (Intake.visit es now a x w) := by
  simp only [show_, after, Intake.visit, List.nil_append, List.append_assoc]
  rfl

theorem dispatching_visit (es : Evaluators) (now : Nat) (a : Attestation) (x : Intake) (w : Watcher) :
    (Intake.visit es now a x w).engine.dispatching = x.engine.dispatching := by
  unfold Intake.visit
  dsimp only
  split
  · rcases x.engine.fire_traffic now w a with ⟨-, ht⟩ | ⟨-, -, -, ht⟩ <;>
      exact congrArg Traffic.dispatching ht
  · rfl

theorem runs_visits (s : System) (es : Evaluators) (now : Nat) (a : Attestation)
    (ws : List Watcher) {x : Intake} (h : x.engine.dispatching = true) :
    (s.after x).Runs (s.after (ws.foldl (Intake.visit es now a) x)) := by
  induction ws generalizing x with
  | nil => exact .refl _
  | cons w ws ih =>
    have hvisit : (s.after x).step? (.visit es now a w) = some ((s.after x).show_ es now a w) :=
      if_pos h
    have hrun : (s.after x).Runs ((s.after x).show_ es now a w).1 := Runs.of_step hvisit
    rw [after_visit] at hrun
    exact hrun.trans (ih ((dispatching_visit es now a x w).trans h))

theorem runs_attest (s : System) (es : Evaluators) (now : Nat) (a : Attestation) :
    s.Runs (s.attest es now a).1 := by
  have harrive := fun t e => @Runs.of_step s t (.arrive a) e
  unfold attest attestBy
  unfold step? at harrive
  cases hr : s.engine.isRunning with
  | false =>
    simp only [hr] at harrive
    exact harrive _ _ rfl
  | true =>
    simp only [hr, if_true] at harrive
    refine (harrive _ _ rfl).trans ?_
    have hd : s.engine.dispatching = true := (Bool.and_eq_true_iff.1 hr).1
    have hruns := s.runs_visits es now a s.engine.active.watchers.values
      (x := ⟨s.engine, { s.metrics with evaluated := s.metrics.evaluated + 1 }, 0, [], []⟩) hd
    simpa [after, intake] using hruns

/-! ### The dispatcher -/

/-- The moves of one turn. -/
theorem runs_moves (count : Nat) (s : System) :
    s.Runs ((s.withDispatch (Dispatch.moves s.engine.stopped count s.engine.dispatch).1).note
      (Dispatch.moves s.engine.stopped count s.engine.dispatch).2) := by
  induction count generalizing s with
  | zero =>
    have hs : (s.withDispatch s.engine.dispatch).note [] = s := by
      simp [withDispatch, note]
    simpa only [Dispatch.moves, hs] using Runs.refl s
  | succ count ih =>
    cases hm : s.engine.dispatch.move? s.engine.stopped with
    | none =>
      have hs : (s.withDispatch s.engine.dispatch).note [] = s := by
        simp [withDispatch, note]
      simpa only [Dispatch.moves, hm, hs] using Runs.refl s
    | some moved =>
      obtain ⟨d, said⟩ := moved
      have hstep : s.step? .proceed =
          some ((s.withDispatch d).note said, effectOf s.engine.dispatch s.engine.stopped) := by
        rw [step?, hm]
        rfl
      refine (Runs.of_step hstep).trans ?_
      have hrest := ih ((s.withDispatch d).note said)
      simp only [Dispatch.moves, hm]
      simpa only [withDispatch, note, List.append_assoc] using hrest

theorem runs_dispatcher {s : System} {d : Dispatch} {said : List Event}
    (h : s.engine.dispatch.turn? s.engine.stopped = some (d, said)) :
    s.Runs ((s.withDispatch d).note said) := by
  unfold Dispatch.turn? at h
  split at h
  · next hr =>
    have hrest := runs_moves Dispatch.movesInTurn ((s.withDispatch
      { s.engine.dispatch with receiver := .waiting }).note [.dispatcherStarted])
    simp only [withDispatch, note] at hrest
    generalize Dispatch.moves s.engine.stopped Dispatch.movesInTurn
      { s.engine.dispatch with receiver := .waiting } = moved at h hrest
    obtain ⟨rfl, rfl⟩ := Prod.mk.inj (Option.some.inj h)
    have hstep : s.step? .wake = some ((s.withDispatch
        { s.engine.dispatch with receiver := .waiting }).note [.dispatcherStarted], .none) := by
      simp only [step?, hr]
    refine (Runs.of_step hstep).trans ?_
    simpa only [withDispatch, note, List.append_assoc, List.singleton_append] using hrest
  · split at h
    · have hrest := runs_moves Dispatch.movesInTurn s
      rw [Option.some.inj h] at hrest
      exact hrest
    · cases h

end System

namespace Deployment

variable {d d' : Deployment} {now : Moment} {index : Nat}

/-! ### Flights -/

/-- Whatever ends a flight, it is a move. -/
theorem runs_finish {f : Flight} (outcome : Except Fault Unit)
    (hf : d.system.engine.dispatch.flights[index]? = some f)
    (h : f.gate = none → outcome = .error (.dispatch .noInvoker)) :
    d.system.Runs (d.finish now index f.message outcome).system := by
  obtain ⟨m, gate⟩ := f
  cases gate with
  | none =>
    obtain rfl := h rfl
    have hstep : d.system.step? (.giveUp d.outage now index) =
        some (d.system.finish d.outage now index m (.error (.dispatch .noInvoker))) := by
      simp only [System.step?, hf]
    exact System.Runs.of_step hstep
  | some k =>
    have hstep : d.system.step? (.finish d.outage now index outcome) =
        some (d.system.finish d.outage now index m outcome) := by
      simp only [System.step?, hf]
    exact System.Runs.of_step hstep

theorem runs_pass {m : Message} {gate k : Nat}
    (hf : d.system.engine.dispatch.flights[index]? = some ⟨m, some gate⟩)
    (h : d.pass? now index m k = some d') : d.system.Runs d'.system := by
  obtain ⟨g, -, rfl⟩ := Option.map_eq_some_iff.1 h
  exact runs_finish (d := { d with gates := d.gates.set k g }) (f := ⟨m, some gate⟩) (d.outcome m) hf
    nofun

theorem runs_flightTurn {f : Flight} (hf : d.system.engine.dispatch.flights[index]? = some f)
    (h : d.flightTurn? now index f = some d') : d.system.Runs d'.system := by
  unfold flightTurn? at h
  split at h
  · obtain rfl := Option.some.inj h
    exact runs_finish _ hf fun _ => rfl
  obtain ⟨m, gate⟩ := f
  cases gate with
  | none =>
    dsimp only at h
    have hstep : d.system.step? (.invoke index (d.gates.length - 1)) =
        some ((d.invoke index m).system, .invoked index) := by
      simp only [System.step?, hf]
      rfl
    have hf' : (d.invoke index m).system.engine.dispatch.flights[index]? =
        some ⟨m, some (d.gates.length - 1)⟩ := by
      simp only [invoke, Dispatch.invoke, List.getElem?_modify, hf]
      rfl
    refine (System.Runs.of_step hstep).trans ?_
    obtain rfl := Option.some.inj h
    cases hp : (d.invoke index m).pass? now index m ((d.invoke index m).gates.length - 1) with
    | none => exact .refl _
    | some passed => exact runs_pass hf' hp
  | some k => exact runs_pass hf h

/-! ### Turns -/

/-- A turn of the runtime is a run of moves. -/
theorem runs_turn (h : d.turn? now = some d') : d.system.Runs d'.system := by
  unfold turn? at h
  dsimp only at h
  split at h
  · next passed hfind =>
    obtain rfl := Option.some.inj h
    obtain ⟨⟨f, index⟩, hmem, hturn⟩ := List.exists_of_findSome?_eq_some hfind
    exact runs_flightTurn (List.mk_mem_zipIdx_iff_getElem?.1 hmem) hturn
  · obtain ⟨⟨dispatch, said⟩, hturn, rfl⟩ := Option.map_eq_some_iff.1 h
    exact System.runs_dispatcher hturn

theorem runs_turns (now : Moment) (count : Nat) (d : Deployment) :
    d.system.Runs (turns now count d).system := by
  induction count generalizing d with
  | zero => exact .refl _
  | succ count ih =>
    rw [turns]
    cases ht : d.turn? now with
    | none => exact .refl _
    | some d' => exact (runs_turn ht).trans (ih d')

theorem runs_drain (d : Deployment) (now : Moment) : d.system.Runs (d.drain now).system :=
  runs_turns now d.enough d

theorem runs_advance (d : Deployment) (now : Moment) (ms : Nat) :
    d.system.Runs (d.advance now ms).system :=
  runs_turns now turnsBetween { d with clock := d.clock + ms }

/-- Letting everything run that can run loses and doubles no message. -/
theorem drain_conserves {config : EngineConfig} {exports : Bool} {e : Engine}
    (hb : Engine.build config exports = .ok e) {store : Store} {metrics : Metrics}
    {journal : List Event} (h : System.Runs ⟨store, e, metrics, journal⟩ d.system) (now : Moment) :
    ∃ l, Observed.Conserved config ⟨(d.drain now).system, l⟩ :=
  Observed.conserved_of_runs hb (h.trans (d.runs_drain now))

/-! ### The other operations -/

theorem runs_attest (d : Deployment) (a : Attestation) : d.system.Runs (d.attest a).1.system :=
  d.system.runs_attest d.evaluators d.clock a

theorem runs_start (d : Deployment) (hasRuntime : Bool) :
    d.system.Runs (d.start hasRuntime).1.system :=
  System.Runs.of_step (m := .start d.outage hasRuntime) rfl

theorem runs_reload (d : Deployment) : d.system.Runs d.reload.1.system :=
  System.Runs.of_step (m := .reload d.outage) rfl

theorem runs_compile (d : Deployment) (now : Moment) (c : Composition) :
    d.system.Runs (d.compile now c).1.system :=
  System.Runs.of_step (m := .compile d.outage (.ofSymbols d.symbols) d.compiler now c) rfl

theorem runs_cleanUp (d : Deployment) (composition : String) :
    d.system.Runs (d.cleanUp composition).1.system :=
  System.Runs.of_step (m := .cleanUp d.outage composition) rfl

end Deployment

end Watchtower
