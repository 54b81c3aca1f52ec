import Mathlib.Tactic.Common
import Watchtower.Engine
import Watchtower.Proofs.Table

/-!
What a match costs its watcher.

A match that gets as far as the rate window leaves behind the window as it is at that time, with one
more fire counted if its message has been queued and with none if it has not
(`Engine.fire_outcome`). Windows of other watchers stay as they are.
-/

namespace Watchtower

namespace RateLimiter

variable {l : RateLimiter} {id : String} {now : Nat}

/-- The next try for a fire starts the watcher's window anew. -/
def restarts (l : RateLimiter) (id : String) (now : Nat) : Bool :=
  match l.windows.get? id with
  | some w => l.span ≤ now - w.startedAt
  | none => true

theorem windowAt_of_restarts (h : l.restarts id now = true) : l.windowAt id now = ⟨now, 0⟩ := by
  unfold restarts at h
  unfold windowAt
  cases hw : l.windows.get? id with
  | none => rfl
  | some w =>
    rw [hw] at h
    exact if_pos (of_decide_eq_true h)

/-- A window whose span is not over is the stored one. -/
theorem windowAt_of_not_restarts (h : l.restarts id now = false) :
    l.windows.get? id = some (l.windowAt id now) ∧ now - (l.windowAt id now).startedAt < l.span := by
  unfold restarts at h
  unfold windowAt
  cases hw : l.windows.get? id with
  | none =>
    rw [hw] at h
    cases h
  | some w =>
    rw [hw] at h
    have hover : ¬l.span ≤ now - w.startedAt := of_decide_eq_false h
    have hrefreshed : w.refreshed l.span now = w := if_neg hover
    dsimp only
    rw [hrefreshed]
    exact ⟨rfl, Nat.lt_of_not_le hover⟩

/-- The limiter with another window for a watcher. -/
def withWindow (l : RateLimiter) (id : String) (w : RateWindow) : RateLimiter :=
  { l with windows := l.windows.put id w }

@[simp] theorem span_withWindow (w : RateWindow) : (l.withWindow id w).span = l.span := rfl

theorem get?_withWindow (w : RateWindow) (j : String) :
    (l.withWindow id w).windows.get? j = if id = j then some w else l.windows.get? j :=
  Table.get?_put ..

/-- A window that has been brought up to date is up to date. -/
theorem windowAt_withWindow (l : RateLimiter) (id : String) (now : Nat) :
    (l.withWindow id (l.windowAt id now)).windowAt id now = l.windowAt id now := by
  rw [windowAt, get?_withWindow, if_pos rfl]
  dsimp only
  rw [RateWindow.refreshed, span_withWindow]
  split
  · next hover =>
    cases h : l.restarts id now with
    | true => rw [windowAt_of_restarts h]
    | false => exact absurd hover (Nat.not_le.2 (windowAt_of_not_restarts h).2)
  · rfl

/-- A try for a fire brings the window up to date, and takes one fire from it if there is one left. -/
theorem acquire_eq {cap : Nat} (h : cap ≠ 0) :
    l.acquire id cap now =
      if (l.windowAt id now).fires < cap then
        (l.withWindow id { l.windowAt id now with fires := (l.windowAt id now).fires + 1 }, true)
      else (l.withWindow id (l.windowAt id now), false) := by
  rw [acquire, if_neg h]
  rfl

/-- A fire that is granted is counted, and no more than the cap are. -/
theorem fires_of_granted {cap : Nat} (h : (l.acquire id cap now).2 = true) :
    ∃ w, (l.acquire id cap now).1.windows.get? id = some w ∧ 0 < w.fires ∧ w.fires ≤ cap := by
  by_cases hzero : cap = 0
  · rw [acquire, if_pos hzero] at h
    cases h
  rw [acquire_eq hzero] at h ⊢
  split at h
  · next hroom =>
    rw [if_pos hroom, get?_withWindow, if_pos rfl]
    exact ⟨_, rfl, Nat.succ_pos _, hroom⟩
  · cases h

theorem release_withWindow (w : RateWindow) :
    (l.withWindow id w).release id = l.withWindow id { w with fires := w.fires - 1 } := by
  rw [release, withWindow, Table.modify_put]
  rfl

/-- A watcher that stays keeps its window, and any other loses it. -/
theorem get?_retain (keep : String → Bool) (id : String) :
    (l.retain keep).windows.get? id = if keep id then l.windows.get? id else none := by
  rw [retain, Table.get?_filter]
  cases keep id <;> cases l.windows.get? id <;> simp [Option.filter]

end RateLimiter

namespace Engine

/-- What a match of a watcher comes to, and the rate windows afterwards. -/
inductive FireOutcome (l : RateLimiter) (now : Nat) (w : Watcher) : RateLimiter → Fate → Prop where
  | zeroCap (h : w.rule.maxFires = 0) : FireOutcome l now w l .zeroCap
  /-- No fire is counted. -/
  | dropped {fate : Fate} (h : w.rule.maxFires ≠ 0)
      (hfate : fate = .rateLimited ∨ fate = .queueFull ∨ fate = .queueClosed) :
      FireOutcome l now w (l.withWindow w.id (l.windowAt w.id now)) fate
  | queued (h : w.rule.maxFires ≠ 0) (hroom : (l.windowAt w.id now).fires < w.rule.maxFires) :
      FireOutcome l now w (l.withWindow w.id
        { l.windowAt w.id now with fires := (l.windowAt w.id now).fires + 1 }) .queued

namespace FireOutcome

variable {l l' : RateLimiter} {now : Nat} {w : Watcher} {fate : Fate}

theorem span (h : FireOutcome l now w l' fate) : l'.span = l.span := by
  cases h <;> rfl

/-- A match has to do with the window of its own watcher only. -/
theorem get?_of_ne (h : FireOutcome l now w l' fate) {id : String} (hid : w.id ≠ id) :
    l'.windows.get? id = l.windows.get? id := by
  cases h with
  | zeroCap => rfl
  | dropped | queued => rw [RateLimiter.get?_withWindow, if_neg hid]

/-- A match whose message is not queued takes nothing from the window. -/
theorem windowAt_of_not_queued (h : FireOutcome l now w l' fate) (hfate : fate ≠ .queued) :
    l'.windowAt w.id now = l.windowAt w.id now := by
  cases h with
  | zeroCap => rfl
  | dropped => exact l.windowAt_withWindow w.id now
  | queued => exact absurd rfl hfate

end FireOutcome

theorem fire_outcome (e : Engine) (now : Nat) (w : Watcher) (a : Attestation) :
    FireOutcome e.limiter now w (e.fire now w a).1.limiter (e.fire now w a).2 := by
  unfold fire
  dsimp only
  by_cases h : w.rule.maxFires = 0
  · rw [if_pos h]
    exact .zeroCap h
  rw [if_neg h, RateLimiter.acquire_eq h]
  by_cases hroom : (e.limiter.windowAt w.id now).fires < w.rule.maxFires
  · simp only [if_pos hroom, Bool.not_true, Bool.false_eq_true, if_false]
    -- the fire is handed back unless the queue takes the message
    cases (e.dispatch.offer ⟨w, a⟩).2 with
    | taken => exact .queued h hroom
    | full =>
      dsimp only
      rw [RateLimiter.release_withWindow]
      exact .dropped h (.inr (.inl rfl))
    | closed =>
      dsimp only
      rw [RateLimiter.release_withWindow]
      exact .dropped h (.inr (.inr rfl))
  · simp only [if_neg hroom, Bool.not_false, if_true]
    exact .dropped h (.inl rfl)

/-- A match does not touch the active set. -/
theorem fire_active (e : Engine) (now : Nat) (w : Watcher) (a : Attestation) :
    (e.fire now w a).1.active = e.active := by
  unfold fire
  dsimp only
  split
  · rfl
  split
  · rfl
  split <;> rfl

end Engine

end Watchtower
