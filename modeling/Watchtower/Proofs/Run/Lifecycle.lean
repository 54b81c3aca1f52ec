import Mathlib.Tactic.Common
import Watchtower.Proofs.Fates
import Watchtower.Proofs.Run.Starting

/-!
The life of an engine.

An engine that has been stopped never runs again, and an engine that does not run leaves attestations
alone. The receiving end of the queue is lost in two ways: a start that fails drops it, and so does
the dispatcher once it sees that the engine has been stopped. Neither leaves an engine that runs
(`Traffic.Attached`), and so an engine that runs never finds its queue closed
(`System.lifecycle_safe`).
-/

namespace Watchtower

namespace Traffic

/-- The receiving end is parked only before the dispatcher is started, and a dispatcher that has been
started has it until the engine is stopped. -/
structure Attached (x : Traffic) : Prop where
  parked : x.dispatch.receiver = .parked → x.dispatching = false
  alive : x.dispatching = true → x.stopped = false → x.dispatch.receiver ≠ .gone

variable {x y : Traffic} {e : Effect}

theorem attached_idle (capacity limit : Nat) : Attached ⟨.idle capacity limit, false, false⟩ :=
  ⟨fun _ => rfl, nofun⟩

theorem Attached.step (h : Attached x) (hs : Step x e y) : Attached y := by
  cases hs with
  | quiet | accept | invoke | finish => exact ⟨h.parked, h.alive⟩
  | startFailed hparked =>
    -- the dispatcher has not been started before, and so it is not now
    refine ⟨nofun, fun hd => ?_⟩
    rw [h.parked hparked] at hd
    cases hd
  | stop => exact ⟨h.parked, nofun⟩
  | start | wake | take | drop | launch => exact ⟨nofun, nofun⟩

end Traffic

namespace System

variable {s s₀ t : System} {ms : List Move}

theorem attached_run {config : EngineConfig} {exports : Bool}
    (hb : Engine.build config exports = .ok s₀.engine) (h : s₀.run? ms = some s) :
    s.engine.traffic.Attached := by
  refine run?_keeps (P := fun u : System => u.engine.traffic.Attached)
    (fun _ hmove hu => hu.step (traffic_step hmove)) ?_ h
  rw [(Engine.build_eq_ok hb).1]
  exact Traffic.attached_idle ..

/-- In a run of a new engine, one that runs has a queue with a receiving end. -/
theorem receiver_of_running {config : EngineConfig} {exports : Bool}
    (hb : Engine.build config exports = .ok s₀.engine) (h : s₀.run? ms = some s)
    (hr : s.engine.isRunning = true) : s.engine.dispatch.receiver ≠ .gone := by
  obtain ⟨hd, hs⟩ := isRunning_iff.1 hr
  exact (attached_run hb h).alive hd hs

/-! ### Stopped engines -/

theorem stopped_of_run (hs : s.engine.stopped = true) (h : s.run? ms = some t) :
    t.engine.stopped = true :=
  run?_keeps (P := fun u : System => u.engine.stopped = true)
    (fun _ hmove hu => (traffic_step hmove).stopped hu) hs h

theorem stopped_stop (s : System) : s.stop.engine.stopped = true := by
  unfold stop
  split
  · next hs => exact hs
  · rfl

/-- An engine that has been stopped at any time is stopped. -/
theorem stopped_of_mem (hmem : .stop ∈ ms) (h : s₀.run? ms = some s) : s.engine.stopped = true := by
  obtain ⟨before, after, rfl⟩ := List.append_of_mem hmem
  rw [run?_append] at h
  obtain ⟨u, -, hafter⟩ := Option.bind_eq_some_iff.1 h
  obtain ⟨v, e, hstop, hrest⟩ := run?_cons_eq_some.1 hafter
  obtain ⟨rfl, -⟩ := Prod.mk.inj (Option.some.inj hstop)
  exact stopped_of_run u.stopped_stop hrest

theorem not_running_of_stopped (hs : s.engine.stopped = true) : s.engine.isRunning = false := by
  simp [Engine.isRunning, hs]

theorem start_of_stopped (hs : s.engine.stopped = true) (outage : Outage) (hasRuntime : Bool) :
    (s.start outage hasRuntime).1.engine = s.engine := by
  unfold start
  rw [hs]
  cases hasRuntime <;> rfl

/-! ### Fates that are counted -/

/-- Only a watcher that finds the queue closed is counted as such. -/
theorem closed_foldl_count {rs : List (Watcher × Engine.Fate)} (h : ∀ r ∈ rs, r.2 ≠ .queueClosed)
    (m : Metrics) : (rs.foldl (fun m r => count m r.1 r.2) m).dropped.get? "closed" =
      m.dropped.get? "closed" := by
  induction rs generalizing m with
  | nil => rfl
  | cons r rs ih =>
    rw [List.foldl_cons, ih fun r' hr' => h r' (List.mem_cons_of_mem _ hr')]
    have hr := h r List.mem_cons_self
    obtain ⟨w, fate⟩ := r
    cases fate with
    | unmatched | zeroCap | rateLimited | queued => rfl
    | queueFull => exact (Table.get?_put ..).trans (if_neg (by decide))
    | queueClosed => exact absurd rfl hr

/-- In every run of a new engine: once it has been stopped it does not run, and no start changes it.
While it does not run, an attestation leaves it and the metrics as they are and is put to no
evaluator. While it runs, the queue has a receiving end, and so in whatever order an attestation is
shown to watchers, none of them finds the queue closed. -/
theorem lifecycle_safe {config : EngineConfig} {exports : Bool}
    (hb : Engine.build config exports = .ok s₀.engine) (h : s₀.run? ms = some s) :
    (.stop ∈ ms → s.engine.isRunning = false ∧
      ∀ outage hasRuntime, (s.start outage hasRuntime).1.engine = s.engine) ∧
    (s.engine.isRunning = false → ∀ es now a, (s.attest es now a).2 = (0, []) ∧
      (s.attest es now a).1.engine = s.engine ∧ (s.attest es now a).1.metrics = s.metrics ∧
      (s.attest es now a).1.store = s.store) ∧
    (s.engine.isRunning = true → s.engine.dispatch.receiver ≠ .gone ∧ ∀ es now a,
      (∀ ws, ∀ r ∈ s.engine.fates es now a ws, r.2 ≠ .queueClosed) ∧
      (s.attest es now a).1.metrics.dropped.get? "closed" = s.metrics.dropped.get? "closed") := by
  refine ⟨fun hmem => ?_, fun hnot es now a => ?_, fun hr => ?_⟩
  · have hs := stopped_of_mem hmem h
    exact ⟨not_running_of_stopped hs, start_of_stopped hs⟩
  · rw [attest_of_not_running hnot]
    exact ⟨rfl, rfl, rfl, rfl⟩
  · have hopen := receiver_of_running hb h hr
    refine ⟨hopen, fun es now a => ⟨Engine.fates_open hopen es now a, ?_⟩⟩
    rw [attest, (attestBy_of_running hr es now a _).2.1]
    exact closed_foldl_count (Engine.fates_open hopen es now a _) _

/-- In the sample the dispatcher drops the receiving end, but only after the engine was stopped. A
later start does not bring the engine back. -/
theorem sample_lifecycle : ∃ s t, Sample.idle.run? [.start .none true, .wake] = some s ∧
    s.engine.isRunning = true ∧
    (∀ es now a ws, ∀ r ∈ s.engine.fates es now a ws, r.2 ≠ .queueClosed) ∧
    Sample.idle.run? [.start .none true, .wake, .stop, .proceed] = some t ∧
    t.engine.dispatch.isOpen = false ∧ t.engine.isRunning = false ∧
    (∀ outage hasRuntime, (t.start outage hasRuntime).1.engine = t.engine) ∧
    ∀ es now a, (t.attest es now a).2 = (0, []) := by
  obtain ⟨s, hs⟩ : ∃ s, Sample.idle.run? [.start .none true, .wake] = some s := ⟨_, rfl⟩
  obtain ⟨t, ht⟩ : ∃ t, Sample.idle.run? [.start .none true, .wake, .stop, .proceed] = some t :=
    ⟨_, rfl⟩
  have hrunning : s.engine.isRunning = true := by
    obtain rfl := Option.some.inj hs
    rfl
  have hclosed : t.engine.dispatch.isOpen = false := by
    obtain rfl := Option.some.inj ht
    rfl
  obtain ⟨-, -, hopen⟩ := lifecycle_safe Sample.build_engine hs
  obtain ⟨hstopped, hidle, -⟩ := lifecycle_safe Sample.build_engine ht
  obtain ⟨hnot, hstart⟩ := hstopped (by simp)
  exact ⟨s, t, hs, hrunning, fun es now a ws => ((hopen hrunning).2 es now a).1 ws, ht, hclosed, hnot,
    hstart, fun es now a => (hidle hnot es now a).1⟩

end System

end Watchtower
