import Mathlib.Data.List.Induction
import Mathlib.Tactic.Common
import Watchtower.Proofs.ActiveSet
import Watchtower.Proofs.Run.Ledger

/-!
What a start leaves behind.

A start takes the parked receiving end of the queue before it reloads, and does not put it back if
the reload fails. A later start takes an engine whose receiving end is gone for one that has been
started, and answers that all is well. So a start that returns leaves an engine that has not been
stopped running exactly if no start before it failed (`System.start_running_iff`).
-/

namespace Watchtower

namespace System

variable {s t : System} {ms : List Move}

theorem show_receiver (s : System) (es : Evaluators) (now : Nat) (a : Attestation) (w : Watcher) :
    (s.show_ es now a w).1.engine.dispatch.receiver = s.engine.dispatch.receiver := by
  unfold show_ Intake.visit
  dsimp only
  split
  · exact s.engine.fire_receiver now w a
  · rfl

/-- No move but a start takes the parked receiving end. -/
theorem parked_of_step {m : Move} {e : Effect} (h : s.step? m = some (t, e))
    (hm : ∀ outage hasRuntime, m ≠ .start outage hasRuntime)
    (hp : s.engine.dispatch.receiver = .parked) : t.engine.dispatch.receiver = .parked := by
  have hstep := engine_step h
  generalize t.engine = e' at hstep ⊢
  cases hstep with
  | start outage hasRuntime => exact absurd rfl (hm outage hasRuntime)
  | stop => exact hp
  | refresh _ hr => exact (congrArg (·.dispatch.receiver) hr.traffic).trans hp
  | visit => exact (s.show_receiver ..).trans hp
  | work _ _ hparked => exact hparked hp

/-! ### How far an engine has got -/

/-- Some start in the course of the moves failed, although there was a runtime. -/
def FailedStart (s : System) (ms : List Move) : Prop :=
  ∃ before outage after u f, ms = before ++ .start outage true :: after ∧
    s.run? before = some u ∧ (u.start outage true).2 = .error f

theorem FailedStart.append (h : FailedStart s ms) (ns : List Move) : FailedStart s (ms ++ ns) := by
  obtain ⟨before, outage, after, u, f, rfl, hu, hf⟩ := h
  exact ⟨before, outage, after ++ ns, u, f, by simp, hu, hf⟩

theorem not_failedStart_nil (s : System) : ¬FailedStart s [] := by
  rintro ⟨before, outage, after, u, f, h, -, -⟩
  simp at h

/-- With one move more a start has failed if one had failed before or this one fails. -/
theorem failedStart_concat_iff {m : Move} (h : s.run? ms = some t) :
    FailedStart s (ms ++ [m]) ↔
      FailedStart s ms ∨ ∃ outage f, m = .start outage true ∧ (t.start outage true).2 = .error f := by
  constructor
  · rintro ⟨before, outage, after, u, f, he, hu, hf⟩
    rcases List.eq_nil_or_concat after with rfl | ⟨after, n, rfl⟩
    · obtain ⟨rfl, hm⟩ := List.append_inj' he rfl
      obtain rfl := Option.some.inj (h.symm.trans hu)
      exact .inr ⟨outage, f, (List.cons.inj hm).1, hf⟩
    · rw [List.concat_eq_append, ← List.cons_append, ← List.append_assoc] at he
      exact .inl ⟨before, outage, after, u, f, (List.append_inj' he rfl).1, hu, hf⟩
  · rintro (hfailed | ⟨outage, f, rfl, hf⟩)
    · exact hfailed.append [m]
    · exact ⟨ms, outage, [], t, f, rfl, h, hf⟩

/-- How far an engine has got with being started. -/
inductive Phase (x : Traffic) (failed : Prop) : Prop where
  | fresh (h : x.dispatch.receiver = .parked) (hd : x.dispatching = false) (hf : ¬failed)
  | started (h : x.dispatch.receiver ≠ .parked) (hd : x.dispatching = true) (hf : ¬failed)
  | broken (h : x.dispatch.receiver = .gone) (hd : x.dispatching = false) (hf : failed)

/-- Whatever leaves the parked receiving end alone keeps the phase. -/
theorem Phase.step {x y : Traffic} {e : Effect} {failed : Prop} (h : Phase x failed)
    (hs : Traffic.Step x e y)
    (hp : x.dispatch.receiver = .parked → y.dispatch.receiver = .parked) : Phase y failed := by
  cases hs with
  | quiet | stop | accept | invoke | finish =>
    cases h with
    | fresh h hd hf => exact .fresh h hd hf
    | started h hd hf => exact .started h hd hf
    | broken h hd hf => exact .broken h hd hf
  | start hr | startFailed hr => cases hp hr
  | wake hr | take hr | drop hr | launch hr =>
    cases h with
    | fresh h => simp [hr] at h
    | started h hd hf => exact .started (by simp [Dispatch.launch, Dispatch.close]) hd hf
    | broken h => simp [hr] at h

/-- A start takes a fresh engine to a started or a broken one, and no other anywhere. -/
theorem Phase.start {failed : Prop} (h : Phase s.engine.traffic failed) (outage : Outage) :
    Phase (s.start outage true).1.engine.traffic
      (failed ∨ ∃ f, (s.start outage true).2 = .error f) := by
  have ho := s.start_outcome outage
  generalize (s.start outage true).1 = t, (s.start outage true).2 = r at ho ⊢
  cases ho with
  | stopped | again => simpa [note] using h
  | failed hs hp ht =>
    rw [ht]
    cases h with
    | fresh _ hd hf => exact .broken rfl hd (.inr ⟨_, rfl⟩)
    | started h => exact absurd hp h
    | broken h => simp [Engine.traffic, hp] at h
  | started hs hp ht =>
    rw [ht]
    cases h with
    | fresh _ _ hf => exact .started (by simp) rfl (by simpa using hf)
    | started h => exact absurd hp h
    | broken h => simp [Engine.traffic, hp] at h

/-- In a run of a new engine its phase tells whether a start has failed. -/
theorem phase_run {config : EngineConfig} {exports : Bool} {s₀ : System}
    (hb : Engine.build config exports = .ok s₀.engine) (h : s₀.run? ms = some s) :
    Phase s.engine.traffic (FailedStart s₀ ms) := by
  induction ms using List.reverseRecOn generalizing s with
  | nil =>
    obtain rfl := Option.some.inj h
    rw [(Engine.build_eq_ok hb).1]
    exact .fresh rfl rfl (not_failedStart_nil _)
  | append_singleton ms m ih =>
    obtain ⟨t, f, ht, hstep⟩ := run?_concat_eq_some.1 h
    have hphase := ih ht
    rw [failedStart_concat_iff ht]
    by_cases hstart : ∃ outage hasRuntime, m = .start outage hasRuntime
    · obtain ⟨outage, hasRuntime, rfl⟩ := hstart
      obtain ⟨rfl, -⟩ := Prod.mk.inj (Option.some.inj hstep)
      cases hasRuntime with
      | false => simpa [start_of_noRuntime] using hphase
      | true => simpa using hphase.start outage
    · have hother : ∀ outage hasRuntime, m ≠ .start outage hasRuntime := fun outage hasRuntime e =>
        hstart ⟨outage, hasRuntime, e⟩
      simpa [hother] using hphase.step (traffic_step hstep) (parked_of_step hstep hother)

/-! ### When a start leads to a running engine -/

/-- Once the receiving end has been taken, the dispatcher has been started or a start has failed. -/
theorem Phase.dispatching_iff {x : Traffic} {failed : Prop} (h : Phase x failed)
    (hp : x.dispatch.receiver ≠ .parked) : x.dispatching = true ↔ ¬failed := by
  cases h with
  | fresh h => exact absurd h hp
  | started _ hd hf => simp [hd, hf]
  | broken _ hd hf => simp [hd, hf]

/-- After a failed start the receiving end is gone, and no dispatcher has it. -/
theorem Phase.of_failed {x : Traffic} {failed : Prop} (h : Phase x failed) (hf : failed) :
    x.dispatch.receiver = .gone ∧ x.dispatching = false := by
  cases h with
  | fresh _ _ hn | started _ _ hn => exact absurd hf hn
  | broken hr hd => exact ⟨hr, hd⟩

theorem isRunning_iff {e : Engine} :
    e.isRunning = true ↔ e.traffic.dispatching = true ∧ e.stopped = false := by
  simp [Engine.isRunning, Engine.traffic]

/-- A start that returns has taken the receiving end, unless the engine has been stopped. -/
theorem not_parked_of_start {outage : Outage} (h : s.start outage true = (t, .ok ()))
    (hstopped : t.engine.stopped = false) : t.engine.dispatch.receiver ≠ .parked := by
  have ho := s.start_outcome outage
  rw [h] at ho
  cases ho with
  | stopped hs => simp [hs] at hstopped
  | again _ hr => exact hr
  | started _ _ ht =>
    have hr : t.engine.dispatch.receiver = .waking := congrArg (·.dispatch.receiver) ht
    simp [hr]

/-- An engine whose receiving end is gone counts as started. -/
theorem start_of_gone (outage : Outage) (hstopped : s.engine.stopped = false)
    (hr : s.engine.dispatch.receiver = .gone) :
    s.start outage true = (s.note [.alreadyStarted], .ok ()) := by
  simp [start, hstopped, hr]

/-- An engine that no start has failed to start can be started wherever the store works. -/
theorem start_of_works {failed : Prop} {outage : Outage} (hphase : Phase s.engine.traffic failed)
    (hf : ¬failed) (hstopped : s.engine.stopped = false)
    (hlimit : s.engine.dispatch.limit ≤ Engine.greatestPermits) (hlist : outage .list = none)
    (hcursor : ∀ c source target, outage (.cursor c source target) = none) :
    ∃ t, s.start outage true = (t, .ok ()) ∧ t.engine.isRunning = true := by
  have ho := s.start_outcome outage
  rcases hstart : s.start outage true with ⟨t, r⟩
  rw [hstart] at ho
  cases ho with
  | stopped hs => simp [hs] at hstopped
  | again _ hr => exact ⟨_, rfl, isRunning_iff.2 ⟨(hphase.dispatching_iff hr).2 hf, hstopped⟩⟩
  | failed _ _ _ why =>
    rcases why with ⟨f, hreload⟩ | hlimit'
    · obtain ⟨u, hu⟩ : ∃ u, s.reload outage = (u, .ok ()) := reload_of_works hlist hcursor
      rw [hu] at hreload
      cases hreload
    · exact absurd hlimit (Nat.not_le.2 hlimit')
  | started _ _ ht =>
    exact ⟨t, rfl, isRunning_iff.2 ⟨congrArg Traffic.dispatching ht, congrArg Traffic.stopped ht⟩⟩

/-- After any run of a new engine, a start that returns leaves an engine that has not been stopped
running if and only if no start had failed before. Without a failed start, any start with a store
that works succeeds. After one, a start claims to have been made before, and the engine never
runs. -/
theorem start_running_iff {config : EngineConfig} {exports : Bool} {s₀ : System}
    (hb : Engine.build config exports = .ok s₀.engine) (h : s₀.run? ms = some s) :
    (∀ outage t, s.start outage true = (t, .ok ()) → t.engine.stopped = false →
      (t.engine.isRunning = true ↔ ¬FailedStart s₀ ms)) ∧
    (¬FailedStart s₀ ms → s.engine.stopped = false →
      config.maxInFlight ≤ Engine.greatestPermits → ∀ outage, outage .list = none →
      (∀ c source target, outage (.cursor c source target) = none) →
      ∃ t, s.start outage true = (t, .ok ()) ∧ t.engine.isRunning = true) ∧
    (FailedStart s₀ ms →
      (s.engine.stopped = false → ∀ outage,
        s.start outage true = (s.note [.alreadyStarted], .ok ())) ∧
      ∀ ns t, s.run? ns = some t → t.engine.isRunning = false) := by
  have hphase := phase_run hb h
  refine ⟨?_, ?_, ?_⟩
  · intro outage t hstart hstopped
    have hafter := hphase.start outage
    rw [hstart] at hafter
    simpa [isRunning_iff, hstopped] using
      hafter.dispatching_iff (not_parked_of_start hstart hstopped)
  · intro hf hstopped hpermits outage hlist hcursor
    obtain ⟨l, hl⟩ := Observed.run?_of_foldlM .empty h
    have hlimit := (Observed.tracks_run hb hl).2.2
    exact start_of_works hphase hf hstopped (hlimit ▸ hpermits) hlist hcursor
  · intro hfailed
    refine ⟨fun hstopped outage => start_of_gone outage hstopped (hphase.of_failed hfailed).1, ?_⟩
    intro ns t ht
    have hafter : s₀.run? (ms ++ ns) = some t := by
      rw [run?_append, h]
      exact ht
    have hd := ((phase_run hb hafter).of_failed (hfailed.append ns)).2
    rw [Bool.eq_false_iff, ne_eq, isRunning_iff, hd]
    simp

end System

/-- A store whose watchers cannot be listed. -/
def Sample.unlisted : Outage
  | .list => some (.conflict "list")
  | _ => none

namespace System

/-- In the sample a failed reload does not keep the engine from being started. -/
theorem sample_starts : ∃ s t, Sample.idle.run? [.reload Sample.unlisted] = some s ∧
    s.start .none true = (t, .ok ()) ∧ t.engine.isRunning = true := by
  obtain ⟨s, hs⟩ : ∃ s, Sample.idle.run? [.reload Sample.unlisted] = some s := ⟨_, rfl⟩
  have hf : ¬FailedStart Sample.idle [.reload Sample.unlisted] := by
    rw [← List.nil_append [_], failedStart_concat_iff rfl]
    simp [not_failedStart_nil]
  obtain ⟨t, ht, hrunning⟩ := (start_running_iff Sample.build_engine hs).2.1 hf
    (by obtain rfl := Option.some.inj hs; rfl) (by decide) .none rfl fun _ _ _ => rfl
  exact ⟨s, t, hs, ht, hrunning⟩

/-- In the sample a start fails because of the store. The next one, with the store working again,
returns without an error and leaves an engine that does not run, although nobody has stopped it. -/
theorem sample_not_running : ∃ s t, Sample.idle.run? [.start Sample.unlisted true] = some s ∧
    (Sample.idle.start Sample.unlisted true).2 = .error (.store (.conflict "list")) ∧
    s.start .none true = (t, .ok ()) ∧ t.engine.stopped = false ∧ t.engine.isRunning = false :=
  ⟨_, _, rfl, rfl, rfl, rfl, rfl⟩

end System

end Watchtower
