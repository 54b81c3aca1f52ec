import Mathlib.Tactic.Common
import Watchtower.Proofs.Compilation.Plan
import Watchtower.Proofs.Reload

/-!
The three stages of a clean-up.

A clean-up removes watchers, then cursors, and then reloads. Whatever becomes of the other stages,
cursors are removed if that works (`System.store_cleanUp`), and where both removals succeed nothing of
the composition is left in the store, however the reload ends (`System.cleanUp_of_removals`).
-/

namespace Watchtower

namespace System

@[simp] theorem removeWatchers_engine (s : System) (outage : Outage) (composition : String) :
    (s.removeWatchers outage composition).1.engine = s.engine := by
  unfold removeWatchers
  split
  · dsimp only
    split <;> rfl
  · rfl

@[simp] theorem removeCursors_engine (s : System) (outage : Outage) (composition : String) :
    (s.removeCursors outage composition).1.engine = s.engine := by
  unfold removeCursors
  dsimp only
  split <;> rfl

theorem reloadAfterCleanUp_reloaded (s : System) (outage : Outage) :
    Reloaded s (s.reloadAfterCleanUp outage).1 := by
  have h := s.reload_reloaded outage
  unfold reloadAfterCleanUp
  split
  · next he =>
    rw [he] at h
    exact h
  · next he =>
    rw [he] at h
    exact h.note _

/-! ### Removals that succeed -/

variable {s : System} {outage : Outage} {composition : String}

theorem removeWatchers_of_works (hid : Naming.isSegment composition = true)
    (h : outage (.deleteByStem (Naming.edgeStem composition)) = none) :
    (s.removeWatchers outage composition).1.store =
        s.store.deleteByStem (Naming.edgeStem composition) ∧
      (s.removeWatchers outage composition).2 =
        s.store.countByStem (Naming.edgeStem composition) := by
  have hdone : ((s.access outage).deleteByStem (Naming.edgeStem composition)).result =
      .ok (s.store.deleteByStem (Naming.edgeStem composition),
        s.store.countByStem (Naming.edgeStem composition)) :=
    Access.attempt_result.2 ⟨h, rfl⟩
  unfold removeWatchers
  rw [if_pos hid]
  dsimp only
  rw [hdone]
  exact ⟨rfl, rfl⟩

theorem removeCursors_of_works (h : outage (.deleteCursors composition) = none) :
    (s.removeCursors outage composition).1.store = s.store.deleteCursors composition ∧
      (s.removeCursors outage composition).2 = s.store.countCursors composition := by
  have hdone : ((s.access outage).deleteCursors composition).result =
      .ok (s.store.deleteCursors composition, s.store.countCursors composition) :=
    Access.attempt_result.2 ⟨h, rfl⟩
  unfold removeCursors
  dsimp only
  rw [hdone]
  exact ⟨rfl, rfl⟩

/-- Cursors are removed whatever becomes of the watchers and of the reload. -/
theorem store_cleanUp (s : System) (h : outage (.deleteCursors composition) = none) :
    (s.cleanUp outage composition).1.store =
      (s.removeWatchers outage composition).1.store.deleteCursors composition := by
  obtain ⟨hc, -⟩ := removeCursors_of_works (s := (s.removeWatchers outage composition).1) h
  rw [cleanUp]
  exact ((reloadAfterCleanUp_reloaded ..).store).trans hc

/-- A clean-up whose removals succeed leaves no row of the composition in the store and counts those
there were. -/
theorem cleanUp_of_removals (s : System) (outage : Outage)
    (hid : Naming.isSegment composition = true)
    (hwatchers : outage (.deleteByStem (Naming.edgeStem composition)) = none)
    (hcursors : outage (.deleteCursors composition) = none) :
    (s.cleanUp outage composition).1.store =
        (s.store.deleteByStem (Naming.edgeStem composition)).deleteCursors composition ∧
      (s.cleanUp outage composition).2.watchersRemoved =
        s.store.countByStem (Naming.edgeStem composition) ∧
      (s.cleanUp outage composition).2.cursorsRemoved = s.store.countCursors composition := by
  obtain ⟨hw, hnw⟩ := removeWatchers_of_works (s := s) hid hwatchers
  obtain ⟨-, hnc⟩ := removeCursors_of_works (s := (s.removeWatchers outage composition).1) hcursors
  refine ⟨?_, hnw, ?_⟩
  · rw [s.store_cleanUp hcursors, hw]
  · exact hnc.trans (by rw [hw]; rfl)

end System

end Watchtower
