import Mathlib.Tactic.Common
import Watchtower.Proofs.Run.Traffic

/-!
What becomes of an attestation.

An engine that runs shows an attestation to its active watchers one after the other (`Engine.meet`),
and each of them comes to some fate (`Engine.fates`). The engine publishes the matches in this order
and queues some of them (`System.attest_attested`); nothing else is published or queued.
-/

namespace Watchtower

namespace System

/-- The watcher matches by the settings of an engine. -/
def matches_ (e : Engine) (es : Evaluators) (a : Attestation) (w : Watcher) : Bool :=
  (es.judge e.config.defaultThreshold w a).matched

/-- The active watchers that match, in the order in which they are shown the attestation. An engine
that does not run shows it to none. -/
def matching (s : System) (es : Evaluators) (a : Attestation) : List Watcher :=
  if s.engine.isRunning then s.engine.active.watchers.values.filter (matches_ s.engine es a) else []

/-- What an attestation is published as, watcher by watcher. -/
def matchEvents (a : Attestation) (ws : List Watcher) : List MatchEvent :=
  ws.map fun w => ⟨w.id, a.id⟩

end System

open Watchtower.System (matches_ matchEvents)

namespace Engine

/-! ### One watcher -/

/-- A match is published, and the settings stay. -/
theorem fire_feed (e : Engine) (now : Nat) (w : Watcher) (a : Attestation) :
    (e.fire now w a).1.feed = e.feed.publish ⟨w.id, a.id⟩ ∧
      (e.fire now w a).1.config = e.config := by
  unfold fire
  dsimp only
  split
  · exact ⟨rfl, rfl⟩
  split
  · exact ⟨rfl, rfl⟩
  split <;> exact ⟨rfl, rfl⟩

/-- Shows an attestation to a watcher: the engine afterwards, and the watcher's fate. -/
def meet (e : Engine) (es : Evaluators) (now : Nat) (a : Attestation) (w : Watcher) : Engine × Fate :=
  if matches_ e es a w then e.fire now w a else (e, .unmatched)

variable {e : Engine} {es : Evaluators} {now : Nat} {a : Attestation} {w : Watcher}

theorem meet_of_matched (h : matches_ e es a w = true) : e.meet es now a w = e.fire now w a := if_pos h

theorem meet_of_unmatched (h : matches_ e es a w = false) : e.meet es now a w = (e, .unmatched) :=
  if_neg (by simp [h])

theorem meet_config (e : Engine) (es : Evaluators) (now : Nat) (a : Attestation) (w : Watcher) :
    (e.meet es now a w).1.config = e.config := by
  unfold meet
  split
  · exact (e.fire_feed now w a).2
  · rfl

/-- Whom an attestation is shown to does not change who matches. -/
theorem matches_meet (e : Engine) (es : Evaluators) (now : Nat) (a : Attestation) (w : Watcher) :
    matches_ (e.meet es now a w).1 es a = matches_ e es a := by
  unfold matches_
  rw [meet_config]

theorem meet_feed (e : Engine) (es : Evaluators) (now : Nat) (a : Attestation) (w : Watcher) :
    (e.meet es now a w).1.feed =
      if matches_ e es a w then e.feed.publish ⟨w.id, a.id⟩ else e.feed := by
  unfold meet
  split
  · exact (e.fire_feed now w a).1
  · rfl

/-- A watcher that is queued joins the end of the queue, and any other leaves the queue and the
dispatcher alone. -/
theorem meet_traffic (e : Engine) (es : Evaluators) (now : Nat) (a : Attestation) (w : Watcher) :
    ((e.meet es now a w).2 ≠ .queued ∧ (e.meet es now a w).1.traffic = e.traffic) ∨
    (matches_ e es a w = true ∧ (e.meet es now a w).2 = .queued ∧
      e.dispatch.queue.length < e.dispatch.capacity ∧ (e.meet es now a w).1.traffic =
        ⟨{ e.dispatch with queue := e.dispatch.queue ++ [⟨w, a⟩] }, e.dispatching, e.stopped⟩) := by
  cases hw : matches_ e es a w with
  | false =>
    rw [meet_of_unmatched hw]
    exact .inl ⟨nofun, rfl⟩
  | true =>
    rw [meet_of_matched hw]
    rcases e.fire_traffic now w a with hother | ⟨hqueued, -, hroom, ht⟩
    · exact .inl hother
    · exact .inr ⟨rfl, hqueued, hroom, ht⟩

/-! ### One watcher after the other -/

/-- The engine once an attestation has been shown to watchers one after the other. -/
def meetAll (es : Evaluators) (now : Nat) (a : Attestation) (e : Engine) (ws : List Watcher) : Engine :=
  ws.foldl (fun e w => (e.meet es now a w).1) e

/-- The fates of watchers that an attestation is shown to one after the other. -/
def fates (es : Evaluators) (now : Nat) (a : Attestation) :
    Engine → List Watcher → List (Watcher × Fate)
  | _, [] => []
  | e, w :: ws => (w, (e.meet es now a w).2) :: fates es now a (e.meet es now a w).1 ws

/-- The watchers that have come to a certain fate, in order. -/
def fated (fate : Fate) (rs : List (Watcher × Fate)) : List Watcher :=
  (rs.filter fun r => r.2 = fate).map Prod.fst

theorem fated_cons (fate : Fate) (r : Watcher × Fate) (rs : List (Watcher × Fate)) :
    fated fate (r :: rs) = if r.2 = fate then r.1 :: fated fate rs else fated fate rs := by
  rw [fated, List.filter_cons]
  by_cases h : r.2 = fate
  · rw [if_pos (decide_eq_true h), if_pos h]
    rfl
  · rw [if_neg (by simpa using h), if_neg h]
    rfl

theorem meetAll_feed (es : Evaluators) (now : Nat) (a : Attestation) (e : Engine)
    (ws : List Watcher) : (e.meetAll es now a ws).feed =
      (matchEvents a (ws.filter (matches_ e es a))).foldl MatchFeed.publish e.feed := by
  induction ws generalizing e with
  | nil => rfl
  | cons w ws ih =>
    rw [meetAll, List.foldl_cons]
    refine (ih (e.meet es now a w).1).trans ?_
    rw [matches_meet, meet_feed, List.filter_cons]
    split <;> rfl

theorem meetAll_queue (es : Evaluators) (now : Nat) (a : Attestation) (e : Engine)
    (ws : List Watcher) : (e.meetAll es now a ws).dispatch.queue =
      e.dispatch.queue ++ (fated .queued (e.fates es now a ws)).map fun w => ⟨w, a⟩ := by
  induction ws generalizing e with
  | nil => exact (List.append_nil _).symm
  | cons w ws ih =>
    rw [meetAll, List.foldl_cons]
    refine (ih (e.meet es now a w).1).trans ?_
    rw [fates, fated_cons]
    rcases e.meet_traffic es now a w with ⟨hfate, ht⟩ | ⟨-, hfate, -, ht⟩
    · have hqueue : (e.meet es now a w).1.dispatch.queue = e.dispatch.queue :=
        congrArg (·.dispatch.queue) ht
      rw [hqueue, if_neg hfate]
    · have hqueue : (e.meet es now a w).1.dispatch.queue = e.dispatch.queue ++ [⟨w, a⟩] :=
        congrArg (·.dispatch.queue) ht
      rw [hqueue, if_pos hfate, List.append_assoc]
      rfl

/-- Only watchers that match are queued. -/
theorem queued_sublist (es : Evaluators) (now : Nat) (a : Attestation) (e : Engine)
    (ws : List Watcher) :
    (fated .queued (e.fates es now a ws)).Sublist (ws.filter (matches_ e es a)) := by
  induction ws generalizing e with
  | nil => exact .slnil
  | cons w ws ih =>
    have hrest := ih (e.meet es now a w).1
    rw [matches_meet] at hrest
    rw [fates, fated_cons]
    rcases e.meet_traffic es now a w with ⟨hfate, -⟩ | ⟨hmatched, hfate, -⟩
    · rw [if_neg hfate]
      exact hrest.trans (List.Sublist.filter _ (List.sublist_cons_self w ws))
    · rw [if_pos hfate, List.filter_cons_of_pos hmatched]
      exact hrest.cons_cons w

end Engine

namespace System

/-! ### Attestations -/

variable {es : Evaluators} {a : Attestation} {x : Intake} {w : Watcher}

/-- A visit shows the attestation to the watcher and counts the watcher's fate. -/
theorem visit_eq (es : Evaluators) (now : Nat) (a : Attestation) (x : Intake) (w : Watcher) :
    (Intake.visit es now a x w).engine = (x.engine.meet es now a w).1 ∧
      (Intake.visit es now a x w).metrics = count x.metrics w (x.engine.meet es now a w).2 ∧
      (Intake.visit es now a x w).queued =
        x.queued + if (x.engine.meet es now a w).2 = .queued then 1 else 0 := by
  unfold Intake.visit
  cases hw : matches_ x.engine es a w with
  | false =>
    rw [Engine.meet_of_unmatched hw]
    rw [matches_] at hw
    simp [hw]
  | true =>
    rw [Engine.meet_of_matched hw]
    rw [matches_] at hw
    simp [hw]

/-- A visit to a watcher that does not match changes nothing in the engine. -/
theorem visit_of_unmatched (now : Nat) (h : matches_ x.engine es a w = false) :
    (Intake.visit es now a x w).engine = x.engine := by
  rw [(visit_eq es now a x w).1, Engine.meet_of_unmatched h]

/-- Visits one after the other show the attestation to the watchers and count their fates. -/
theorem foldl_visit (es : Evaluators) (now : Nat) (a : Attestation) (ws : List Watcher)
    (x : Intake) :
    (ws.foldl (Intake.visit es now a) x).engine = x.engine.meetAll es now a ws ∧
      (ws.foldl (Intake.visit es now a) x).metrics =
        (x.engine.fates es now a ws).foldl (fun m r => count m r.1 r.2) x.metrics ∧
      (ws.foldl (Intake.visit es now a) x).queued =
        x.queued + (Engine.fated .queued (x.engine.fates es now a ws)).length := by
  induction ws generalizing x with
  | nil => exact ⟨rfl, rfl, rfl⟩
  | cons w ws ih =>
    obtain ⟨hengine, hmetrics, hqueued⟩ := ih (Intake.visit es now a x w)
    obtain ⟨he, hm, hq⟩ := visit_eq es now a x w
    rw [he] at hengine hmetrics hqueued
    rw [hm] at hmetrics
    rw [hq] at hqueued
    refine ⟨hengine, hmetrics, hqueued.trans ?_⟩
    rw [Engine.fates, Engine.fated_cons]
    split
    · rw [List.length_cons]
      omega
    · rfl

/-- The matches of an attestation are published, some of them are queued, and that is all. -/
structure Attested (s : System) (es : Evaluators) (now : Nat) (a : Attestation)
    (queued : List Watcher) : Prop where
  feed : (s.attest es now a).1.engine.feed =
    (matchEvents a (s.matching es a)).foldl MatchFeed.publish s.engine.feed
  queue : (s.attest es now a).1.engine.dispatch.queue =
    s.engine.dispatch.queue ++ queued.map fun w => ⟨w, a⟩
  count : (s.attest es now a).2.1 = queued.length
  matched : queued.Sublist (s.matching es a)

/-- An engine that does not run leaves an attestation alone. -/
theorem attest_of_not_running {s : System} (h : s.engine.isRunning = false) (es : Evaluators)
    (now : Nat) (a : Attestation) :
    s.attest es now a = (s.note [.ignoredAttestation a.id], 0, []) := by
  simp [attest, attestBy, h]

/-- An engine that runs shows the attestation to the watchers and counts their fates. -/
theorem attestBy_of_running {s : System} (h : s.engine.isRunning = true) (es : Evaluators)
    (now : Nat) (a : Attestation) (order : List Watcher) :
    (s.attestBy es now a order).1.engine = s.engine.meetAll es now a order ∧
      (s.attestBy es now a order).1.metrics = (s.engine.fates es now a order).foldl
        (fun m r => count m r.1 r.2) { s.metrics with evaluated := s.metrics.evaluated + 1 } ∧
      (s.attestBy es now a order).2.1 =
        (Engine.fated .queued (s.engine.fates es now a order)).length := by
  obtain ⟨hengine, hmetrics, hqueued⟩ := foldl_visit es now a order
    ⟨s.engine, { s.metrics with evaluated := s.metrics.evaluated + 1 }, 0, [], []⟩
  unfold attestBy
  rw [h]
  exact ⟨hengine, hmetrics, hqueued.trans (Nat.zero_add _)⟩

/-- An attestation leads to its matches and to nothing else. -/
theorem attest_attested (s : System) (es : Evaluators) (now : Nat) (a : Attestation) :
    ∃ queued, s.Attested es now a queued := by
  cases hr : s.engine.isRunning with
  | false =>
    have hattest := attest_of_not_running hr es now a
    have hnone : s.matching es a = [] := by simp [matching, hr]
    refine ⟨[], ?_, ?_, ?_, List.nil_sublist _⟩
    · rw [hattest, hnone]
      rfl
    · rw [hattest]
      simp
    · rw [hattest]
      rfl
  | true =>
    have hshown := attestBy_of_running hr es now a s.engine.active.watchers.values
    rw [← attest] at hshown
    obtain ⟨hengine, -, hqueued⟩ := hshown
    have hsome : s.matching es a =
        s.engine.active.watchers.values.filter (matches_ s.engine es a) := by
      simp [matching, hr]
    refine ⟨_, ?_, ?_, hqueued, ?_⟩
    · rw [hengine, hsome]
      exact Engine.meetAll_feed ..
    · rw [hengine]
      exact Engine.meetAll_queue ..
    · rw [hsome]
      exact Engine.queued_sublist ..

end System

end Watchtower
