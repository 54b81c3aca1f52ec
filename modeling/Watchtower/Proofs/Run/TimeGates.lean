import Mathlib.Tactic.Common
import Watchtower.Proofs.Run.Replay
import Watchtower.Proofs.Run.StoreLaws

/-!
Time gates only move forward.

An engine that takes over a store starts the watcher of an edge at the later of two moments, its own
start and the one that the edge's cursor has come to, and leaves the watcher as it is stored in all
else (`ActiveSet.seeded_of_edge`). Until the store is taken over again, nothing earlier is matched.
Whatever is done in any order, the gate is no earlier when it is (`System.gates_advance`): cursors
that are spared never go back, and the later of two moments goes forward with both.
-/

namespace Watchtower

/-! ### The order of starts -/

namespace Moment

/-- The second start is no earlier than the first. Without a start there is nothing to be earlier
than. -/
def NoLater (x y : Option Moment) : Prop := ∀ a ∈ x, ∃ b ∈ y, ¬ b.Before a

variable {x y z x' y' : Option Moment}

theorem noLater_refl (x : Option Moment) : NoLater x x := fun a ha => ⟨a, ha, a.not_before_self⟩

theorem NoLater.trans (h : NoLater x y) (k : NoLater y z) : NoLater x z := by
  intro a ha
  obtain ⟨b, hb, hab⟩ := h a ha
  obtain ⟨c, hc, hbc⟩ := k b hb
  exact ⟨c, hc, not_before_trans hab hbc⟩

theorem noLater_merge_left (x y : Option Moment) : NoLater x (x.merge later y) := by
  intro a ha
  obtain rfl := Option.mem_def.1 ha
  cases y with
  | none => exact noLater_refl _ a rfl
  | some b => exact ⟨a.later b, rfl, (not_before_later.1 (a.later b).not_before_self).1⟩

theorem noLater_merge_right (x y : Option Moment) : NoLater y (x.merge later y) := by
  intro b hb
  obtain rfl := Option.mem_def.1 hb
  cases x with
  | none => exact noLater_refl _ b rfl
  | some a => exact ⟨a.later b, rfl, (not_before_later.1 (a.later b).not_before_self).2⟩

theorem merge_noLater (h : NoLater x z) (k : NoLater y z) : NoLater (x.merge later y) z := by
  cases x with
  | none => cases y <;> exact k
  | some a =>
    cases y with
    | none => exact h
    | some b =>
      -- the later of the two is one of them
      show NoLater (some (later a b)) z
      unfold later
      split
      · exact h
      · exact k

/-- The later of two starts goes forward with both. -/
theorem NoLater.merge (h : NoLater x x') (k : NoLater y y') :
    NoLater (x.merge later y) (x'.merge later y') :=
  merge_noLater (h.trans (noLater_merge_left x' y')) (k.trans (noLater_merge_right x' y'))

end Moment

open Moment (NoLater)

/-! ### The active copy of a watcher -/

/-- The watcher with another start, and as it is otherwise. -/
def Watcher.startingAt (w : Watcher) (start : Option Moment) : Watcher :=
  { w with rule := { w.rule with filter := { w.rule.filter with timeStart := start } } }

/-- Where the watcher of an edge has to start: at the later of its own start and the edge's cursor,
as far as there are such. -/
def Store.start? (s : Store) (e : EdgeAction) (w : Watcher) : Option Moment :=
  w.rule.filter.timeStart.merge Moment.later
    ((s.cursor? e.composition e.source e.target).map Cursor.lastAt)

/-- Only the start of an active watcher of an edge is not the stored one. -/
theorem ActiveSet.seeded_of_edge {s : Store} {w : Watcher} {e : EdgeAction}
    (he : w.rule.edge? = some e) : seeded s w = w.startingAt (s.start? e w) := by
  unfold Store.start?
  cases hk : s.cursor? e.composition e.source e.target with
  | none =>
    have hown : seeded s w = w := by
      unfold seeded
      rw [he]
      dsimp only
      rw [hk]
    rw [hown, Option.map_none, Option.merge_none_right]
    rfl
  | some k =>
    rw [seeded_of_cursor he hk]
    unfold gate Watcher.startingAt
    cases w.rule.filter.timeStart <;> rfl

/-- A watcher does not match what comes before its start. -/
theorem Evaluators.not_matched_of_before {es : Evaluators} {default : Numeric.Single} {w : Watcher}
    {a : Attestation} {start : Moment} (h : w.rule.filter.timeStart = some start)
    (hbefore : a.timestamp.Before start) : (es.judge default w a).matched = false := by
  rw [Bool.eq_false_iff]
  intro hmatched
  have hadmits := (matched_iff.1 hmatched).1
  simp [Filter.admits, h, hbefore] at hadmits

namespace System

variable {s t u : System} {id : String} {v : Watcher} {key : String}

/-- An active watcher is one that is stored, started where the store has it start. -/
theorem exists_stored (ht : t.store.Sound) (hactive : t.engine.active = .ofStore t.store)
    (hv : t.engine.active.watchers.get? id = some v) :
    ∃ w, t.store.get? id = .ok (some w) ∧ v = ActiveSet.seeded t.store w := by
  rw [hactive] at hv
  obtain ⟨w, hw, -, rfl, rfl⟩ := (ActiveSet.get?_ofStore ht).1 hv
  refine ⟨w, ?_, rfl⟩
  rw [Store.get?, ((Store.mem_list ht).1 hw).1]

/-! ### Until the store is taken over again -/

/-- Moves one after the other, none of which takes over the store. -/
def runUntaken? (s : System) (ms : List Move) : Option System :=
  ms.foldlM (fun s m => if s.takesOver m then none else (s.step? m).map Prod.fst) s

theorem run?_of_untaken {ms : List Move} (h : s.runUntaken? ms = some t) : s.run? ms = some t := by
  induction ms generalizing s with
  | nil => exact h
  | cons m ms ih =>
    rw [runUntaken?, List.foldlM_cons] at h
    obtain ⟨u, hu, hrest⟩ := Option.bind_eq_some_iff.1 h
    split at hu
    · cases hu
    · obtain ⟨⟨_, e⟩, hmove, rfl⟩ := Option.map_eq_some_iff.1 hu
      exact run?_cons_eq_some.2 ⟨_, e, hmove, ih hrest⟩

theorem active_of_untaken {ms : List Move} (h : s.runUntaken? ms = some t) :
    t.engine.active = s.engine.active := by
  refine foldlM_keeps (P := fun u => u.engine.active = s.engine.active) ?_ rfl h
  intro u m u' _ hstep hu
  split at hstep
  · cases hstep
  next huntaken =>
  obtain ⟨⟨_, e⟩, hmove, rfl⟩ := Option.map_eq_some_iff.1 hstep
  rw [step_active hmove, if_neg huntaken, hu]

/-- An active watcher is shown an attestation in vain that comes before its start, and so the
attestation is published for others at most. -/
theorem shut_of_before (hkeyed : u.engine.active.Keyed)
    (hv : u.engine.active.watchers.get? id = some v) {start : Moment}
    (hstart : v.rule.filter.timeStart = some start) (es : Evaluators) (now : Nat) {a : Attestation}
    (hbefore : a.timestamp.Before start) :
    (u.show_ es now a v).1.engine = u.engine ∧
      ∃ queued, u.Attested es now a queued ∧ ∀ x ∈ u.matching es a, x.id ≠ id := by
  have hnot : matches_ u.engine es a v = false := Evaluators.not_matched_of_before hstart hbefore
  refine ⟨visit_of_unmatched now hnot, ?_⟩
  obtain ⟨queued, hattested⟩ := u.attest_attested es now a
  refine ⟨queued, hattested, fun x hx hid => ?_⟩
  unfold matching at hx
  split at hx
  · obtain ⟨hmem, hmatches⟩ := List.mem_filter.1 hx
    -- ids are unique, so the watcher that matches is the one that is shut
    obtain ⟨k, hk⟩ := Table.mem_values.1 hmem
    obtain rfl : k = id := (hkeyed hk).symm.trans hid
    obtain rfl := Option.some.inj (hk.symm.trans hv)
    rw [hnot] at hmatches
    cases hmatches
  · cases hx

/-! ### From one take-over to a later one -/

/-- The cursor of an edge that is spared is at no earlier moment later on. -/
theorem Lasts.cursor_noLater {e : EdgeAction} (h : Lasts e.cursorKey t u) :
    NoLater ((t.store.cursor? e.composition e.source e.target).map Cursor.lastAt)
      ((u.store.cursor? e.composition e.source e.target).map Cursor.lastAt) := by
  intro at_ hat
  obtain ⟨k, hk, rfl⟩ := Option.map_eq_some_iff.1 hat
  have ht : t.store.Reached e.cursorKey k.lastAt := ⟨k, hk, k.lastAt.not_before_self⟩
  obtain ⟨k', hk', hlater⟩ := h.reached ht
  exact ⟨k'.lastAt, Option.map_eq_some_iff.2 ⟨k', hk', rfl⟩, hlater⟩

/-- The watcher `w` of an edge is stored, and `v` is its copy in an engine that has just taken over
the store: what its gate is, what it shuts out, and what becomes of it. -/
structure Gated (t : System) (id : String) (v w : Watcher) (e : EdgeAction) : Prop where
  /-- The active watcher is the stored one, started where it has to start. -/
  copy : v = w.startingAt (t.store.start? e w)
  /-- Until the store is taken over again, nothing earlier is matched. -/
  shut : ∀ ms u, t.runUntaken? ms = some u → u.engine.active.watchers.get? id = some v ∧
    ∀ es now a start, v.rule.filter.timeStart = some start → a.timestamp.Before start →
      (u.show_ es now a v).1.engine = u.engine ∧
        ∃ queued, u.Attested es now a queued ∧ ∀ x ∈ u.matching es a, x.id ≠ id
  /-- When the store is taken over again, the gate has not moved back, provided that the cursor was
  spared and that the stored watcher is still one of the edge and starts no earlier. -/
  advances : ∀ ms u n u' f, t.run? ms = some u → u.step? n = some (u', f) → u.takesOver n = true →
    (∀ m ∈ ms ++ [n], m.loses e.cursorKey = false) →
    ∀ w' e' v', u'.store.get? id = .ok (some w') → w'.rule.edge? = some e' →
      (e'.composition, e'.source, e'.target) = (e.composition, e.source, e.target) →
      NoLater w.rule.filter.timeStart w'.rule.filter.timeStart →
      u'.engine.active.watchers.get? id = some v' →
      NoLater v.rule.filter.timeStart v'.rule.filter.timeStart

/-- Wherever a store is taken over, by a reload or otherwise, every active watcher is a stored one,
and if the stored one belongs to an edge, then its gate is kept. -/
theorem gates_advance {m : Move} {f : Effect} (hs : s.Past) (h : s.step? m = some (t, f))
    (hover : s.takesOver m = true) (hv : t.engine.active.watchers.get? id = some v) :
    ∃ w, t.store.get? id = .ok (some w) ∧ ∀ e, w.rule.edge? = some e → Gated t id v w e := by
  have ht : t.Past := hs.move h
  have hactive : t.engine.active = .ofStore t.store := (step_active h).trans (if_pos hover)
  obtain ⟨w, hw, hseeded⟩ := exists_stored ht.reachable.sound hactive hv
  refine ⟨w, hw, fun e he => ?_⟩
  have hcopy : v = w.startingAt (t.store.start? e w) :=
    hseeded.trans (ActiveSet.seeded_of_edge he)
  refine ⟨hcopy, ?_, ?_⟩
  · intro ms u hrun
    have hsame := active_of_untaken hrun
    have hv' : u.engine.active.watchers.get? id = some v := hsame ▸ hv
    refine ⟨hv', fun es now a start hstart hbefore => ?_⟩
    have hkeyed : u.engine.active.Keyed := by
      rw [hsame, hactive]
      exact ActiveSet.keyed_ofStore t.store
    exact shut_of_before hkeyed hv' hstart es now hbefore
  · intro ms u n u' f' hrun hstep hover' hspares w' e' v' hw' he' hsame hown hv'
    have hu' : u'.Past := (ht.runs ⟨ms, hrun⟩).move hstep
    have hactive' : u'.engine.active = .ofStore u'.store :=
      (step_active hstep).trans (if_pos hover')
    obtain ⟨w'', hw'', hseeded'⟩ := exists_stored hu'.reachable.sound hactive' hv'
    obtain rfl : w'' = w' := Option.some.inj (Except.ok.inj (hw''.symm.trans hw'))
    have hcopy' := hseeded'.trans (ActiveSet.seeded_of_edge he')
    have hlasts : Lasts e.cursorKey t u' :=
      (lasts_of_run hrun fun m hm => hspares m (List.mem_append_left _ hm)).tail
        (.move (hspares n (by simp)) hstep)
    obtain ⟨hc, hsource, htarget⟩ : e'.composition = e.composition ∧ e'.source = e.source ∧
        e'.target = e.target := by simpa using hsame
    rw [hcopy, hcopy']
    show NoLater (t.store.start? e w) (u'.store.start? e' w'')
    unfold Store.start?
    rw [hc, hsource, htarget]
    exact hown.merge hlasts.cursor_noLater

end System

/-! A watcher of an edge is stored, and its engine reloads after one attestation and after a later
one. -/

namespace Sample

def flown : List Move :=
  .change (.create follower) :: aloft ++ [.finish .none default 0 (.ok ())]

/-- What is shown by then is the watcher with its gate. -/
def afterwards : List Move :=
  fly (ActiveSet.gate follower default) "b" 1 ++ [.finish .none default 0 (.ok ())]

/-- The edge's watcher is active and starts at a moment. -/
def startsAt (s : System) (start : Moment) : Bool :=
  (s.engine.active.watchers.get? "w").any fun v => v.rule.filter.timeStart = some start

/-- The edge's watcher is stored, and has no start of its own. -/
def storesEdge (s : System) : Bool :=
  match s.store.get? "w" with
  | .ok (some w) => w.rule.edge? = some edge ∧ w.rule.filter.timeStart = none
  | _ => false

theorem exists_stored {s : System} (h : storesEdge s = true) : ∃ w, s.store.get? "w" = .ok (some w) ∧
    w.rule.edge? = some edge ∧ w.rule.filter.timeStart = none := by
  unfold storesEdge at h
  split at h
  · next w hw => exact ⟨w, hw, of_decide_eq_true h⟩
  · cases h

end Sample

namespace System

/-- In the sample the gate is at the first attestation until the second reload, and at the second
one from then on. -/
theorem sample_gates : ∃ s t u u' v v', Sample.idle.run? Sample.flown = some s ∧
    s.reload .none = (t, .ok ()) ∧ t.runUntaken? Sample.afterwards = some u ∧
    u.reload .none = (u', .ok ()) ∧ t.engine.active.watchers.get? "w" = some v ∧
    u'.engine.active.watchers.get? "w" = some v' ∧
    v.rule.filter.timeStart = some ⟨0, 0⟩ ∧ v'.rule.filter.timeStart = some ⟨1, 0⟩ ∧
    (∀ es, ∀ x ∈ u.matching es (.bare "z" ⟨-1, 0⟩), x.id ≠ "w") ∧
    NoLater v.rule.filter.timeStart v'.rule.filter.timeStart := by
  have hrun : (Sample.idle.run? Sample.flown).any (fun s =>
      let t := (s.reload .none).1
      (s.reload .none).2 = .ok () ∧ Sample.startsAt t ⟨0, 0⟩ ∧ Sample.storesEdge t ∧
        (t.runUntaken? Sample.afterwards).any fun u =>
          let u' := (u.reload .none).1
          (u.reload .none).2 = .ok () ∧ Sample.startsAt u' ⟨1, 0⟩ ∧ Sample.storesEdge u') = true := by
    decide +kernel
  obtain ⟨s, hs, hfacts⟩ := (Option.any_eq_true _ _).1 hrun
  obtain ⟨hok, hstart, hstored, hlater⟩ := of_decide_eq_true hfacts
  obtain ⟨u, hu, hafter⟩ := (Option.any_eq_true _ _).1 hlater
  obtain ⟨hok', hstart', hstored'⟩ := of_decide_eq_true hafter
  obtain ⟨v, hv, hgate⟩ := (Option.any_eq_true _ _).1 hstart
  obtain ⟨v', hv', hgate'⟩ := (Option.any_eq_true _ _).1 hstart'
  have hgate := of_decide_eq_true hgate
  have hgate' := of_decide_eq_true hgate'
  obtain ⟨w, hw, hedge, hown⟩ := Sample.exists_stored hstored
  obtain ⟨w', hw', hedge', hown'⟩ := Sample.exists_stored hstored'
  have hpast : s.Past := Past.runs (.fresh (s := Sample.idle) rfl) ⟨_, hs⟩
  obtain ⟨x, hx, hgated⟩ := gates_advance hpast (m := .reload .none) rfl
    (congrArg Except.isOk hok) hv
  obtain rfl : x = w := Option.some.inj (Except.ok.inj (hx.symm.trans hw))
  obtain ⟨-, hshut, hadvances⟩ := hgated _ hedge
  refine ⟨s, _, u, _, v, v', hs, Prod.ext rfl hok, hu, Prod.ext rfl hok', hv, hv', hgate, hgate', ?_,
    ?_⟩
  · intro es
    obtain ⟨-, queued, -, hothers⟩ := (hshut _ u hu).2 es 0 (.bare "z" ⟨-1, 0⟩) ⟨0, 0⟩ hgate (by decide)
    exact hothers
  · refine hadvances _ u (.reload .none) _ .none (run?_of_untaken hu) rfl
      (congrArg Except.isOk hok') (by decide) w' _ v' hw' hedge' rfl ?_ hv'
    rw [hown, hown']
    exact Moment.noLater_refl none

end System

end Watchtower
