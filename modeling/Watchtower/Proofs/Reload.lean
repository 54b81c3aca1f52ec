import Mathlib.Tactic.Common
import Watchtower.Compilation

/-!
What a reload changes.

A reload touches the active set and the rate windows of the engine, the metrics and the journal. It
touches neither the store nor the rest of the engine, whether it succeeds or fails
(`System.reload_reloaded`). A start adds only what has to do with the dispatcher
(`System.start_reloads`).
-/

namespace Watchtower

namespace Engine

/-- The same engine, or the same but for an active set gathered anew, which the rate windows follow. -/
def Refreshed (e e' : Engine) : Prop :=
  e' = e ∨ ∃ a set, (ActiveSet.gather a).result = .ok set ∧ e' = e.activate set

end Engine

namespace System

@[simp] theorem note_engine (s : System) (events : List Event) :
    (s.note events).engine = s.engine := rfl

/-- The same store, and the same engine but for its active set and rate windows. -/
structure Reloaded (s t : System) : Prop where
  store : t.store = s.store
  engine : s.engine.Refreshed t.engine

variable {s t : System} {outage : Outage}

theorem Reloaded.refl (s : System) : Reloaded s s := ⟨rfl, .inl rfl⟩

theorem Reloaded.note (h : Reloaded s t) (events : List Event) : Reloaded s (t.note events) :=
  ⟨h.store, h.engine⟩

theorem reload_reloaded (s : System) (outage : Outage) : Reloaded s (s.reload outage).1 := by
  unfold reload adopt
  dsimp only
  split
  · exact (Reloaded.refl s).note _
  · next set hset => exact ⟨rfl, .inr ⟨_, set, hset, rfl⟩⟩

theorem reloadIfChanged_reloaded (s : System) (outage : Outage) (r : CompileReport) :
    Reloaded s (s.reloadIfChanged outage r).1 := by
  have h := s.reload_reloaded outage
  unfold reloadIfChanged
  split
  · split
    · next he =>
      rw [he] at h
      exact h
    · next he =>
      rw [he] at h
      exact h.note _
  · exact .refl s

/-- Apart from the dispatcher and the journal, a start changes nothing or what a reload changes. -/
theorem start_reloads (s : System) (outage : Outage) (hasRuntime : Bool) :
    ∃ t dispatch dispatching journal, (t = s ∨ t = (s.reload outage).1) ∧
      (s.start outage hasRuntime).1 =
        { t with engine := { t.engine with dispatch, dispatching }, journal } := by
  unfold start
  split
  · exact ⟨s, _, _, _, .inl rfl, rfl⟩
  split
  · exact ⟨s, _, _, _, .inl rfl, rfl⟩
  split
  · split
    · next t f he => exact ⟨t, _, _, _, .inr (by rw [he]), rfl⟩
    · next t he =>
      split
      · exact ⟨t, _, _, _, .inr (by rw [he]), rfl⟩
      · exact ⟨t, _, _, _, .inr (by rw [he]), rfl⟩
  · exact ⟨s, _, _, _, .inl rfl, rfl⟩

end System

end Watchtower
