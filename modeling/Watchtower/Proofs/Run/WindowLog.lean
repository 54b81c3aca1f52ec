import Mathlib.Data.List.Basic
import Mathlib.Tactic.Common
import Watchtower.Proofs.RateWindow

/-!
Logs of rate windows.

An observer of one watcher writes down when its rate window starts anew and when messages for it are
queued. The log agrees with the rate limiter if the window that the limiter keeps counts just the
messages queued since it was started (`WindowLog.Agrees`). Each try for a fire keeps it so, and a log
that agrees with the limiter has no more than the cap in a window and no more than twice the cap in a
span of time (`WindowLog.Lawful.countP_queued_le`).
-/

namespace Watchtower

/-- What is known about one rate window. -/
structure WindowLog where
  startedAt : Nat
  /-- When messages were queued, the latest first. -/
  queuedAt : List Nat
  deriving DecidableEq

namespace WindowLog

/-- The window as the limiter has to keep it. -/
def window (g : WindowLog) : RateWindow := ⟨g.startedAt, g.queuedAt.length⟩

/-- Writes down a message. The latest window is the first one. -/
def record (now : Nat) : List WindowLog → List WindowLog
  | [] => [⟨now, [now]⟩]
  | g :: gs => { g with queuedAt := now :: g.queuedAt } :: gs

/-- Writes down a try for a fire, which may start the window anew. -/
def touch (l : RateLimiter) (id : String) (now : Nat) (gs : List WindowLog) : List WindowLog :=
  if l.restarts id now then ⟨now, []⟩ :: gs else gs

/-- All times at which messages were queued. -/
def queued (gs : List WindowLog) : List Nat := gs.flatMap (·.queuedAt)

/-- Windows follow each other at least one span apart, none of them has more messages than the cap,
and none of them has a message from outside of its span. -/
structure Lawful (k span clock : Nat) (gs : List WindowLog) : Prop where
  capped : ∀ g ∈ gs, g.queuedAt.length ≤ k
  /-- A window without a span still has the moment at which it starts. -/
  within : ∀ g ∈ gs, ∀ q ∈ g.queuedAt, g.startedAt ≤ q ∧ q < g.startedAt + max 1 span
  spaced : gs.Pairwise fun g g' => g'.startedAt + span ≤ g.startedAt
  past : ∀ g ∈ gs, g.startedAt ≤ clock

namespace Lawful

variable {k span clock : Nat} {g : WindowLog} {gs : List WindowLog}

theorem nil : Lawful k span clock [] := ⟨nofun, nofun, .nil, nofun⟩

theorem later {clock' : Nat} (h : Lawful k span clock gs) (hclock : clock ≤ clock') :
    Lawful k span clock' gs :=
  { h with past := fun g hg => (h.past g hg).trans hclock }

/-- A window may follow once the span of the latest one is over. -/
theorem restart (h : Lawful k span clock gs)
    (hover : ∀ g ∈ gs.head?, g.startedAt + span ≤ clock) :
    Lawful k span clock (⟨clock, []⟩ :: gs) where
  capped := List.forall_mem_cons.2 ⟨Nat.zero_le k, h.capped⟩
  within := List.forall_mem_cons.2 ⟨nofun, h.within⟩
  spaced := by
    refine List.pairwise_cons.2 ⟨fun g' hg' => ?_, h.spaced⟩
    obtain ⟨g, gs, rfl⟩ := List.exists_cons_of_ne_nil (List.ne_nil_of_mem hg')
    have hg : g.startedAt + span ≤ clock := hover g rfl
    rcases List.mem_cons.1 hg' with rfl | hlater
    · exact hg
    · have hspan : g'.startedAt + span ≤ g.startedAt := List.rel_of_pairwise_cons h.spaced hlater
      have hpast : g.startedAt ≤ clock := h.past g List.mem_cons_self
      exact hspan.trans hpast
  past := List.forall_mem_cons.2 ⟨Nat.le_refl clock, h.past⟩

/-- A message may join the latest window while there is room in it. -/
theorem record (h : Lawful k span clock (g :: gs)) (hroom : g.queuedAt.length < k)
    (hnow : clock < g.startedAt + max 1 span) :
    Lawful k span clock (WindowLog.record clock (g :: gs)) where
  capped := List.forall_mem_cons.2 ⟨hroom, (List.forall_mem_cons.1 h.capped).2⟩
  within := by
    obtain ⟨hg, hgs⟩ := List.forall_mem_cons.1 h.within
    exact List.forall_mem_cons.2
      ⟨List.forall_mem_cons.2 ⟨⟨h.past g List.mem_cons_self, hnow⟩, hg⟩, hgs⟩
  spaced := List.pairwise_cons.2 (List.pairwise_cons.1 h.spaced)
  past := List.forall_mem_cons.2 (List.forall_mem_cons.1 h.past)

/-! ### Any span of time -/

/-- A window has messages from a span of time only if it starts near to it. -/
def near (t span : Nat) (g : WindowLog) : Bool := t < g.startedAt + span && g.startedAt < t + span

/-- Of windows one span apart there are no three near to one span of time. -/
theorem length_filter_near_le (h : Lawful k span clock gs) (t : Nat) :
    (gs.filter (near t span)).length ≤ 2 := by
  have hnear : ∀ g ∈ gs.filter (near t span),
      t < g.startedAt + span ∧ g.startedAt < t + span := fun g hg => by
    simpa [near] using (List.mem_filter.1 hg).2
  have hspaced := h.spaced.filter (near t span)
  generalize gs.filter (near t span) = hs at hnear hspaced
  match hs with
  | [] | [_] | [_, _] => simp
  | a :: b :: c :: hs =>
    have hab : b.startedAt + span ≤ a.startedAt := List.rel_of_pairwise_cons hspaced (by simp)
    have hbc : c.startedAt + span ≤ b.startedAt := List.rel_of_pairwise_cons hspaced.of_cons (by simp)
    have ha := hnear a (by simp)
    have hc := hnear c (by simp)
    omega

/-- The messages of a span of time are in the windows near to it. -/
theorem countP_le (hcapped : ∀ g ∈ gs, g.queuedAt.length ≤ k)
    (hwithin : ∀ g ∈ gs, ∀ q ∈ g.queuedAt, g.startedAt ≤ q ∧ q < g.startedAt + max 1 span) (t : Nat) :
    (queued gs).countP (fun q => t ≤ q && q < t + span) ≤ k * (gs.filter (near t span)).length := by
  induction gs with
  | nil => simp [queued]
  | cons g gs ih =>
    obtain ⟨hg, hcapped⟩ := List.forall_mem_cons.1 hcapped
    obtain ⟨hgw, hwithin⟩ := List.forall_mem_cons.1 hwithin
    have hrest := ih hcapped hwithin
    rw [queued, List.flatMap_cons, List.countP_append, ← queued]
    cases hn : near t span g with
    | true =>
      have hone : g.queuedAt.countP (fun q => t ≤ q && q < t + span) ≤ k :=
        List.countP_le_length.trans hg
      rw [List.filter_cons_of_pos hn, List.length_cons, Nat.mul_succ]
      omega
    | false =>
      have hzero : g.queuedAt.countP (fun q => t ≤ q && q < t + span) = 0 := by
        refine List.countP_eq_zero.2 fun q hq hin => ?_
        have hw := hgw q hq
        simp only [Bool.and_eq_true, decide_eq_true_eq] at hin
        have hnear : near t span g = true := by
          simp only [near, Bool.and_eq_true, decide_eq_true_eq]
          omega
        rw [hn] at hnear
        cases hnear
      rw [List.filter_cons_of_neg (by simp [hn]), hzero, Nat.zero_add]
      exact hrest

/-- In no span of time are there more messages than twice the cap. -/
theorem countP_queued_le (h : Lawful k span clock gs) (t : Nat) :
    (queued gs).countP (fun q => t ≤ q && q < t + span) ≤ 2 * k :=
  calc (queued gs).countP (fun q => t ≤ q && q < t + span)
    _ ≤ k * (gs.filter (near t span)).length := countP_le h.capped h.within t
    _ ≤ k * 2 := Nat.mul_le_mul_left k (h.length_filter_near_le t)
    _ = 2 * k := Nat.mul_comm k 2

end Lawful

/-- The limiter keeps the latest window of the log, and counts the messages in it. -/
structure Agrees (k clock : Nat) (l : RateLimiter) (id : String) (gs : List WindowLog) : Prop where
  window : l.windows.get? id = gs.head?.map window
  lawful : Lawful k l.span clock gs

namespace Agrees

variable {k clock : Nat} {l l' : RateLimiter} {id : String} {gs : List WindowLog}

/-- Without a window there is nothing to be known. -/
theorem nil (h : l.windows.get? id = none) : Agrees k clock l id [] := ⟨h, .nil⟩

/-- Time may pass while the window is left alone. -/
theorem of_same {clock' : Nat} (h : Agrees k clock l id gs) (hspan : l'.span = l.span)
    (hwindow : l'.windows.get? id = l.windows.get? id) (hclock : clock ≤ clock') :
    Agrees k clock' l' id gs :=
  ⟨hwindow.trans h.window, hspan ▸ h.lawful.later hclock⟩

theorem fires_le (h : Agrees k clock l id gs) {w : RateWindow} (hw : l.windows.get? id = some w) :
    w.fires ≤ k := by
  rw [h.window] at hw
  obtain ⟨g, hg, rfl⟩ := Option.map_eq_some_iff.1 hw
  exact h.lawful.capped g (List.mem_of_mem_head? hg)

/-- A try for a fire has the window as it is at the time at the head of the log. -/
theorem exists_touch (h : Agrees k clock l id gs) :
    ∃ g rest, touch l id clock gs = g :: rest ∧ g.window = l.windowAt id clock ∧
      Lawful k l.span clock (g :: rest) ∧ clock < g.startedAt + max 1 l.span := by
  unfold touch
  cases hr : l.restarts id clock with
  | true =>
    refine ⟨⟨clock, []⟩, gs, rfl, (RateLimiter.windowAt_of_restarts hr).symm, ?_, by simp⟩
    refine h.lawful.restart fun g hg => ?_
    have hwindow : l.windows.get? id = some g.window := by
      rw [h.window, hg]
      rfl
    have hover : l.span ≤ clock - g.startedAt := by
      rw [RateLimiter.restarts, hwindow] at hr
      exact of_decide_eq_true hr
    have hpast : g.startedAt ≤ clock := h.lawful.past g (List.mem_of_mem_head? hg)
    omega
  | false =>
    obtain ⟨hstored, hspan⟩ := RateLimiter.windowAt_of_not_restarts hr
    rw [h.window] at hstored
    obtain ⟨g, hg, hwindow⟩ := Option.map_eq_some_iff.1 hstored
    obtain ⟨rest, rfl⟩ := List.head?_eq_some_iff.1 hg
    have hstarted : (l.windowAt id clock).startedAt = g.startedAt := by rw [← hwindow]; rfl
    refine ⟨g, rest, rfl, hwindow, h.lawful, ?_⟩
    omega

/-- A try for a fire that comes to nothing. -/
theorem drop (h : Agrees k clock l id gs) :
    Agrees k clock (l.withWindow id (l.windowAt id clock)) id (touch l id clock gs) := by
  obtain ⟨g, rest, htouch, hwindow, hlawful, -⟩ := h.exists_touch
  rw [htouch]
  refine ⟨?_, hlawful⟩
  rw [RateLimiter.get?_withWindow, if_pos rfl, ← hwindow]
  rfl

/-- A fire whose message is queued. -/
theorem queue (h : Agrees k clock l id gs) (hroom : (l.windowAt id clock).fires < k) :
    Agrees k clock
      (l.withWindow id { l.windowAt id clock with fires := (l.windowAt id clock).fires + 1 }) id
      (WindowLog.record clock (touch l id clock gs)) := by
  obtain ⟨g, rest, htouch, hwindow, hlawful, hnow⟩ := h.exists_touch
  rw [htouch]
  rw [← hwindow] at hroom ⊢
  refine ⟨?_, hlawful.record hroom hnow⟩
  rw [RateLimiter.get?_withWindow, if_pos rfl]
  rfl

end Agrees

end WindowLog

end Watchtower
