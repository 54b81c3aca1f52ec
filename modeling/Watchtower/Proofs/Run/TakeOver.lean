import Mathlib.Tactic.Common
import Watchtower.Proofs.ActiveSet
import Watchtower.Proofs.RateWindow
import Watchtower.Proofs.Run.Traffic

/-!
When an engine takes over the store.

Starts, reloads, compilations and clean-ups may make the active set the one of the store
(`System.takesOver`). The active set is then the one of the store as they leave it, and nothing else
changes it (`System.step_active`).
-/

namespace Watchtower

namespace System

/-- The move makes the engine take over the store. -/
def takesOver (s : System) : Move → Bool
  | .start outage hasRuntime =>
    hasRuntime && !s.engine.stopped && match s.engine.dispatch.receiver with
      | .parked => (s.reload outage).2.isOk
      | _ => false
  | .reload outage => (s.reload outage).2.isOk
  | .compile outage resolver config now c =>
    (s.compile outage resolver config now c).2.toOption.any fun r => r.report.reloaded
  | .cleanUp outage composition => (s.cleanUp outage composition).2.reloaded
  | _ => false

/-- The active set is the one of the store if the store has been taken over, and as it was if not. -/
def TakesUp (taken : Bool) (s t : System) : Prop :=
  t.engine.active = if taken then .ofStore t.store else s.engine.active

variable {s t : System} {m : Move} {e : Effect}

theorem reload_takesUp (s : System) (outage : Outage) :
    TakesUp (s.reload outage).2.isOk s (s.reload outage).1 := by
  unfold reload adopt
  dsimp only
  split
  · rfl
  · next set hset => exact ActiveSet.gather_ensures _ set hset

theorem reloadIfChanged_takesUp (s : System) (outage : Outage) {r : CompileReport}
    (hnot : r.reloaded = false) :
    TakesUp (s.reloadIfChanged outage r).2.reloaded s (s.reloadIfChanged outage r).1 := by
  have h := s.reload_takesUp outage
  unfold reloadIfChanged
  split
  · split
    · next he =>
      rw [he] at h
      exact h
    · next he =>
      rw [he] at h
      rwa [TakesUp, hnot]
  · rw [TakesUp, hnot]
    rfl

theorem compile_takesUp (s : System) (outage : Outage) (resolver : Resolver)
    (config : CompilerConfig) (now : Moment) (c : Composition) :
    TakesUp ((s.compile outage resolver config now c).2.toOption.any fun r => r.report.reloaded) s
      (s.compile outage resolver config now c).1 := by
  unfold compile
  split
  · rfl
  dsimp only
  split
  · rfl
  split
  · rfl
  · exact reloadIfChanged_takesUp _ outage rfl

/-- A compilation that says that it has reloaded has taken over the store. -/
theorem active_of_reloaded {outage : Outage} {resolver : Resolver} {config : CompilerConfig}
    {now : Moment} {c : Composition} {r : Compiled}
    (h : s.compile outage resolver config now c = (t, .ok r)) (hr : r.report.reloaded = true) :
    t.engine.active = .ofStore t.store := by
  have htakes := s.compile_takesUp outage resolver config now c
  rw [h] at htakes
  exact htakes.trans (if_pos hr)

theorem reloadAfterCleanUp_takesUp (s : System) (outage : Outage) :
    TakesUp (s.reloadAfterCleanUp outage).2 s (s.reloadAfterCleanUp outage).1 := by
  have h := s.reload_takesUp outage
  unfold reloadAfterCleanUp
  split
  · next he =>
    rw [he] at h
    exact h
  · next he =>
    rw [he] at h
    exact h

theorem cleanUp_takesUp (s : System) (outage : Outage) (composition : String) :
    TakesUp (s.cleanUp outage composition).2.reloaded s (s.cleanUp outage composition).1 := by
  have h := ((s.removeWatchers outage composition).1.removeCursors outage
    composition).1.reloadAfterCleanUp_takesUp outage
  rw [TakesUp, removeCursors_engine, removeWatchers_engine] at h
  rw [cleanUp]
  exact h

/-- A clean-up that says that it has reloaded has taken over the store. -/
theorem active_of_cleanUp {outage : Outage} {composition : String}
    (h : (s.cleanUp outage composition).2.reloaded = true) :
    (s.cleanUp outage composition).1.engine.active =
      .ofStore (s.cleanUp outage composition).1.store :=
  (s.cleanUp_takesUp outage composition).trans (if_pos h)

theorem start_takesUp (s : System) (outage : Outage) (hasRuntime : Bool) :
    TakesUp (s.takesOver (.start outage hasRuntime)) s (s.start outage hasRuntime).1 := by
  have h := s.reload_takesUp outage
  unfold takesOver start
  cases hasRuntime with
  | false => rfl
  | true =>
    cases s.engine.stopped with
    | true => rfl
    | false =>
      rw [if_neg (by decide), if_neg (by decide)]
      cases s.engine.dispatch.receiver with
      | parked =>
        dsimp only
        split
        · next he =>
          rw [he] at h ⊢
          exact h
        · next he =>
          rw [he] at h ⊢
          split <;> exact h
      | waking | waiting | holding | gone => rfl

theorem show_active (s : System) (es : Evaluators) (now : Nat) (a : Attestation) (w : Watcher) :
    (s.show_ es now a w).1.engine.active = s.engine.active := by
  unfold show_ Intake.visit
  dsimp only
  split
  · exact s.engine.fire_active now w a
  · rfl

/-- No move changes the active set but one that takes over the store. -/
theorem step_active (h : s.step? m = some (t, e)) :
    t.engine.active = if s.takesOver m then .ofStore t.store else s.engine.active := by
  cases step_of_step? h with
  | start outage hasRuntime => exact s.start_takesUp outage hasRuntime
  | stop =>
    unfold stop
    split <;> rfl
  | reload outage => exact s.reload_takesUp outage
  | compile outage resolver config now c => exact s.compile_takesUp outage resolver config now c
  | cleanUp outage composition => exact s.cleanUp_takesUp outage composition
  | change | arrive | ignore | wake | proceed | invoke => rfl
  | visit es now a w => exact s.show_active es now a w
  | finish | giveUp =>
    rw [finish, settle_engine]
    rfl

end System

end Watchtower
