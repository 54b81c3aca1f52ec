import Mathlib.Data.List.Induction
import Mathlib.Tactic.Common
import Watchtower.Proofs.Compilation.Sources
import Watchtower.Proofs.Run.Clearance

/-!
Cursors that come back after a clean-up.

A clean-up removes the cursors of a composition, but it neither waits for the actions of the
composition that are on their way nor calls them off. One that ends well afterwards stores its cursor
as if nothing had happened, and nothing else brings a cursor back. Each of these actions was on its
way at the clean-up, or was queued since because a watcher of the composition was shown an
attestation; the latter does not happen any more once the watchers are removed, the engine has
reloaded, and the composition is not compiled again (`System.forgets_iff`).
-/

namespace Watchtower

/-! ### Stores that have cursors -/

namespace Store

variable {s : Store} {composition : String}

/-- Some cursor is found when the composition is asked for it. -/
def Remembers (s : Store) (composition : String) : Prop :=
  ∃ source target, (s.cursor? composition source target).isSome = true

theorem remembers_iff : s.Remembers composition ↔
    ∃ key, Cursor.IsKeyOf composition key ∧ ((s.cursors.get? key).bind Row.value?).isSome = true := by
  constructor
  · rintro ⟨source, target, h⟩
    exact ⟨_, ⟨source, target, rfl⟩, h⟩
  · rintro ⟨_, ⟨source, target, rfl⟩, h⟩
    exact ⟨source, target, h⟩

theorem remembers_of_reached {key : String} {at_ : Moment} (hkey : Cursor.IsKeyOf composition key)
    (h : s.Reached key at_) : s.Remembers composition := by
  obtain ⟨k, hk, -⟩ := h
  exact remembers_iff.2 ⟨key, hkey, by rw [Option.mem_def.1 hk]; rfl⟩

/-- Without its cursors a composition is forgotten. -/
theorem not_remembers_deleteCursors (s : Store) (composition : String) :
    ¬ (s.deleteCursors composition).Remembers composition := by
  rw [remembers_iff]
  rintro ⟨key, hkey, hsome⟩
  rw [get?_deleteCursors, if_pos (Cursor.startsWith_of_isKeyOf hkey)] at hsome
  cases hsome

/-- No change brings a cursor back but one that stores it. -/
theorem not_remembers_apply {c : StoreChange} (h : ¬ s.Remembers composition)
    (hc : ∀ k, c = .upsertCursor k → ¬ Cursor.IsKeyOf composition k.key) :
    ¬ (s.apply c).Remembers composition := by
  simp only [remembers_iff, not_exists, not_and] at h ⊢
  intro key hkey
  have hold := h key hkey
  cases c with
  | create | createOrReplace | update | recordFire | recordError | delete | deleteByStem
  | damageWatcher =>
    rwa [cursors_apply]
  | upsertCursor k =>
    have hne : ¬ k.key = key := fun e => hc k rfl (e ▸ hkey)
    rw [cursors_apply, get?_upsertCursor, if_neg fun he => hne he.1]
    exact hold
  | deleteCursors other =>
    rw [cursors_apply, get?_deleteCursors]
    split
    · simp
    · exact hold
  | damageCursor other source target =>
    simp only [cursors_apply, damageCursor, Table.get?_put]
    split
    · simp [Row.value?]
    · exact hold

/-- Without a cursor of the composition there is nothing to time-gate its watchers by. -/
theorem seeded_of_not_remembers (h : ¬ s.Remembers composition) {w : Watcher}
    (hw : w.IsOf composition) : ActiveSet.seeded s w = w := by
  obtain ⟨key, hkey, e, he, rfl⟩ := hw
  have hnone : s.cursor? e.composition e.source e.target = none := by
    by_contra hsome
    exact h (remembers_iff.2 ⟨e.cursorKey, hkey, Option.isSome_iff_ne_none.2 hsome⟩)
  unfold ActiveSet.seeded
  rw [Option.mem_def.1 he]
  dsimp only
  rw [hnone]

end Store

/-! ### Actions that are on their way -/

namespace Dispatch

/-- The messages on their way: in the queue, in the dispatcher's hand, or in flight. -/
def pending (d : Dispatch) : List Message :=
  d.queue ++ d.receiver.inHand?.toList ++ d.flights.map (·.message)

theorem mem_pending {d : Dispatch} {m : Message} : m ∈ d.pending ↔
    m ∈ d.queue ∨ d.receiver.inHand? = some m ∨ m ∈ d.flights.map (·.message) := by
  rw [pending, List.mem_append, List.mem_append, Option.mem_toList, or_assoc]

end Dispatch

/-- Whatever is on its way was so before or has just been queued. -/
theorem Traffic.Step.pending {x y : Traffic} {e : Effect} (h : Step x e y) {m : Message}
    (hm : m ∈ y.dispatch.pending) : m ∈ x.dispatch.pending ∨ e = .accepted m := by
  rw [Dispatch.mem_pending] at hm ⊢
  cases h with
  | quiet | stop => exact .inl hm
  | start hr => exact .inl (by simpa only [hr, Receiver.inHand?] using hm)
  | wake hr => exact .inl (by simpa only [hr, Receiver.inHand?] using hm)
  | startFailed | drop =>
    -- what was queued is gone
    rcases hm with hm | hm | hm
    · cases hm
    · cases hm
    · exact .inl (.inr (.inr hm))
  | accept msg =>
    rw [List.mem_append, List.mem_singleton] at hm
    rcases hm with (hm | rfl) | hm
    · exact .inl (.inl hm)
    · exact .inr rfl
    · exact .inl (.inr hm)
  | take hr hq =>
    rw [hq, List.mem_cons]
    rcases hm with hm | hm | hm
    · exact .inl (.inl (.inr hm))
    · exact .inl (.inl (.inl (Option.some.inj hm).symm))
    · exact .inl (.inr (.inr hm))
  | launch hr =>
    rw [hr]
    rw [Dispatch.launch, List.map_append, List.mem_append] at hm
    rcases hm with hm | hm | hm | hm
    · exact .inl (.inl hm)
    · cases hm
    · exact .inl (.inr (.inr hm))
    · exact .inl (.inr (.inl (congrArg some (List.mem_singleton.1 hm).symm)))
  | invoke gate =>
    rw [Dispatch.messages_invoke] at hm
    exact .inl hm
  | finish =>
    refine .inl (hm.imp_right (Or.imp_right ?_))
    rw [Dispatch.land, ← List.eraseIdx_map]
    exact List.mem_of_mem_eraseIdx

namespace System

variable {s t u v : System} {m : Move} {e : Effect}

/-- A message that is queued is a match of the watcher that the move shows. -/
theorem visit_of_accepted {msg : Message} (h : s.step? m = some (t, e)) (he : e = .accepted msg) :
    ∃ es now, m = .visit es now msg.attestation msg.watcher := by
  have hstep := engine_step h
  generalize t.engine = e' at hstep
  cases hstep with
  | start outage hasRuntime =>
    unfold effectOfStart at he
    split at he <;> cases he
  | stop | refresh => cases he
  | @visit es now a w hd =>
    unfold show_ at he
    dsimp only at he
    split at he
    · cases he
    · obtain rfl := Effect.accepted.inj he
      exact ⟨es, now, rfl⟩
  | work hm hs hparked hqueues =>
    have hno := hqueues msg.watcher.id
    rw [he, Effect.queues, beq_self_eq_true] at hno
    cases hno

/-- After some moves the message has been queued by one of them, which showed its attestation to its
watcher. -/
def Queues (s : System) (done : List Move) (msg : Message) : Prop :=
  ∃ before es now u v, before ++ [.visit es now msg.attestation msg.watcher] <+: done ∧
    s.run? before = some u ∧
    u.step? (.visit es now msg.attestation msg.watcher) = some (v, .accepted msg)

/-- What is on its way was so all the time, or has been queued in the meantime. -/
theorem pending_run {ms : List Move} (h : s.run? ms = some t) {msg : Message}
    (hmsg : msg ∈ t.engine.dispatch.pending) :
    msg ∈ s.engine.dispatch.pending ∨ s.Queues ms msg := by
  induction ms using List.reverseRecOn generalizing t with
  | nil =>
    obtain rfl := Option.some.inj h
    exact .inl hmsg
  | append_singleton ms m ih =>
    obtain ⟨u, e, hu, hstep⟩ := run?_concat_eq_some.1 h
    rcases (traffic_step hstep).pending hmsg with hmsg | rfl
    · refine (ih hu hmsg).imp_right fun ⟨before, es, now, v, w, hbefore, hrun⟩ => ?_
      exact ⟨before, es, now, v, w, hbefore.trans (List.prefix_append _ _), hrun⟩
    · obtain ⟨es, now, rfl⟩ := visit_of_accepted hstep rfl
      exact .inr ⟨ms, es, now, u, t, List.prefix_rfl, hu, hstep⟩

/-! ### What brings a cursor back -/

theorem subset_of_keep (outage : Outage) (w : Watcher) (bs : List Book) (s : System) :
    (keep outage w bs s).2 ⊆ bs := by
  induction bs generalizing s with
  | nil => exact List.Subset.refl _
  | cons b bs ih =>
    rw [keep_cons]
    split
    · exact List.cons_subset_cons b (ih _)
    · exact List.cons_subset_cons b (List.nil_subset _)

/-- A cursor is attempted to be stored for an edge whose action has ended well. -/
theorem cursor_of_settle {outage : Outage} {now : Moment} {msg : Message}
    {outcome : Except Fault Unit} {k : Cursor}
    (h : .cursor k ∈ (s.settle outage now msg outcome).2) :
    outcome = .ok () ∧ cursorAfter? msg = some k := by
  have hdue := subset_of_keep _ _ _ _ h
  cases outcome with
  | error f => simp [Book.due] at hdue
  | ok _ => exact ⟨rfl, by simpa [Book.due] using hdue⟩

end System

/-- Somebody stores a cursor of the composition by hand. -/
def Move.StoresByHand (composition : String) (m : Move) : Prop :=
  ∃ k, m = .change (.upsertCursor k) ∧ Cursor.IsKeyOf composition k.key

namespace System

variable {s t u v : System} {m : Move} {e : Effect} {outage : Outage} {composition : String}
  {ms : List Move}

/-- The action of the message, which is for an edge of the composition, ends well, and its cursor is
stored. -/
def Recalls (u : System) (composition : String) (msg : Message) (v : System) : Prop :=
  ∃ e, u.Completes msg e v ∧ Cursor.IsKeyOf composition e.cursorKey

theorem Recalls.remembers {msg : Message} (h : u.Recalls composition msg v) :
    v.store.Remembers composition := by
  obtain ⟨e, hdone, hkey⟩ := h
  exact Store.remembers_of_reached hkey hdone.reached

theorem Recalls.pending {msg : Message} (h : u.Recalls composition msg v) :
    msg ∈ u.engine.dispatch.pending ∧ msg.watcher.IsOf composition := by
  obtain ⟨e, ⟨hedge, _, _, index, gate, _, hflight, -⟩, hkey⟩ := h
  refine ⟨Dispatch.mem_pending.2 (.inr (.inr ?_)), _, hkey, e, hedge, rfl⟩
  exact List.mem_map_of_mem (List.mem_of_getElem? hflight)

/-- A composition is remembered anew only if one of its actions has ended well. -/
theorem recalls_of_step (h : u.step? m = some (v, e)) (hhand : ¬ m.StoresByHand composition)
    (hu : ¬ u.store.Remembers composition) (hv : v.store.Remembers composition) :
    ∃ msg, u.Recalls composition msg v := by
  obtain ⟨k, hmade, hkey⟩ : ∃ k, m.Makes e (.upsertCursor k) ∧ Cursor.IsKeyOf composition k.key := by
    by_contra hnone
    push Not at hnone
    exact (step_evolves h).keeps (P := fun s => ¬ s.Remembers composition)
      (fun s c hc hs => Store.not_remembers_apply hs fun k hk => hnone k (hk ▸ hc)) hu hv
  generalize hc : StoreChange.upsertCursor k = c at hmade
  cases hmade with
  | change => exact absurd ⟨k, hc ▸ rfl, hkey⟩ hhand
  | compile w hw => cases w <;> cases hc
  | removeWatchers | removeCursors | giveUp => cases hc
  | @finish outage now index outcome attempts b hmade hworks =>
    cases b with
    | fire | error => cases hc
    | cursor k' =>
      obtain rfl := StoreChange.upsertCursor.inj hc
      generalize he : Effect.finished index outcome attempts = e at h
      have hstep := h
      cases step_of_step? h with
      | @finish _ _ _ _ msg gate hflight =>
        obtain ⟨-, -, rfl⟩ := Effect.finished.inj he
        obtain ⟨rfl, hafter⟩ := cursor_of_settle hmade
        obtain ⟨edge, hedge, rfl⟩ := Option.map_eq_some_iff.1 hafter
        exact ⟨msg, edge, ⟨hedge, outage, now, index, gate, _, hflight, hstep, hmade, hworks⟩, hkey⟩

/-- Nowhere in the run has the composition a cursor. -/
def StaysForgotten (s : System) (composition : String) (ms : List Move) : Prop :=
  ∀ done u, done <+: ms → s.run? done = some u → ¬ u.store.Remembers composition

/-- In the run the action of the message, which is for an edge of the composition, ends well after the
moves `done`, and its cursor is stored. -/
def RecallsIn (s : System) (composition : String) (ms done : List Move) (msg : Message) : Prop :=
  ∃ m u v e, done ++ [m] <+: ms ∧ s.run? done = some u ∧ u.step? m = some (v, e) ∧
    u.Recalls composition msg v

theorem staysForgotten_iff (hhand : ∀ m ∈ ms, ¬ m.StoresByHand composition)
    (hs : ¬ s.store.Remembers composition) :
    s.StaysForgotten composition ms ↔ ∀ done msg, ¬ s.RecallsIn composition ms done msg := by
  constructor
  · rintro hforgotten done msg ⟨m, u, v, e, hms, hrun, hstep, hrecalls⟩
    exact hforgotten _ v hms (run?_concat_eq_some.2 ⟨u, e, hrun, hstep⟩) hrecalls.remembers
  · intro hnot done
    induction done using List.reverseRecOn with
    | nil =>
      intro u _ hrun
      exact Option.some.inj hrun ▸ hs
    | append_singleton done m ih =>
      intro v hms hrun hv
      obtain ⟨u, e, hu, hstep⟩ := run?_concat_eq_some.1 hrun
      have hm : m ∈ ms := hms.subset (List.mem_append_right _ List.mem_cons_self)
      have hforgotten := ih u ((List.prefix_append _ _).trans hms) hu
      obtain ⟨msg, hrecalls⟩ := recalls_of_step hstep (hhand m hm) hforgotten hv
      exact hnot done msg ⟨m, u, v, e, hms, hu, hstep, hrecalls⟩

/-- An action that brings a cursor back was on its way from the beginning or has been queued since. -/
theorem RecallsIn.pending {done : List Move} {msg : Message}
    (h : s.RecallsIn composition ms done msg) : msg.watcher.IsOf composition ∧
      (msg ∈ s.engine.dispatch.pending ∨ s.Queues done msg) := by
  obtain ⟨m, u, v, e, -, hrun, -, hrecalls⟩ := h
  obtain ⟨hpending, hof⟩ := hrecalls.pending
  exact ⟨hof, pending_run hrun hpending⟩

/-- As no watcher of the composition is shown, nothing is queued for it. -/
theorem RecallsIn.pending_of_visits {done : List Move} {msg : Message}
    (h : s.RecallsIn composition ms done msg)
    (hvisits : ∀ es now a w, .visit es now a w ∈ ms → ¬ w.IsOf composition) :
    msg ∈ s.engine.dispatch.pending := by
  obtain ⟨hof, hpending⟩ := h.pending
  refine hpending.resolve_right fun hqueues => ?_
  obtain ⟨before, es, now, _, _, hbefore, -⟩ := hqueues
  obtain ⟨m, _, _, _, hms, -⟩ := h
  have hmoves := hbefore.trans ((List.prefix_append _ _).trans hms)
  exact hvisits es now _ _ (hmoves.subset (List.mem_append_right _ List.mem_cons_self)) hof

/-! ### Clean-ups that get through -/

/-- Attestations are shown only to watchers that are active at some point of the run. -/
def ShowsActive (s : System) (ms : List Move) : Prop :=
  ∀ es now a w, .visit es now a w ∈ ms →
    ∃ part u, part <+: ms ∧ s.run? part = some u ∧ w ∈ u.engine.active.watchers.values

/-- The clean-up clears the system of the composition, none of the moves afterwards revives it, and
they show attestations only to watchers that are active after the clean-up. -/
structure Severs (s : System) (outage : Outage) (composition : String) (ms : List Move) : Prop where
  clears : s.Clears outage composition
  unrevived : ∀ m ∈ ms, ¬ m.Revives composition
  shows : (s.cleanUp outage composition).1.ShowsActive ms

/-- After such a clean-up no watcher of the composition is shown. -/
theorem Severs.not_isOf (h : s.Severs outage composition ms)
    (hcursors : outage (.deleteCursors composition) = none) {es : Evaluators} {now : Nat}
    {a : Attestation} {w : Watcher} (hvisit : .visit es now a w ∈ ms) : ¬ w.IsOf composition := by
  obtain ⟨part, u, hpart, hrun, hactive⟩ := h.shows es now a w hvisit
  have hclear : u.IsClearOf composition := isClearOf_run hrun
    (fun m hm => h.unrevived m (hpart.subset hm)) (h.clears.isClearOf hcursors)
  exact hclear.active w hactive

/-- After a clean-up that has removed the cursors of a composition, and unless one is stored by hand,
the composition has no cursor exactly as long as no action for one of its edges ends well and has
its cursor stored. Each such action was on its way at the clean-up or has been queued since because
its watcher was shown an attestation. Only the former is possible if no watcher of the composition is
shown any more, and so it is if the clean-up gets through and nothing revives the composition: then no
cursor comes back if at the clean-up no action of the composition is on its way. As long as none has
come back no watcher of the composition is time-gated by one. -/
theorem forgets_iff (hworks : outage (.deleteCursors composition) = none)
    (hhand : ∀ m ∈ ms, ¬ m.StoresByHand composition) :
    let t := (s.cleanUp outage composition).1
    (t.StaysForgotten composition ms ↔ ∀ done msg, ¬ t.RecallsIn composition ms done msg) ∧
    (∀ done msg, t.RecallsIn composition ms done msg → msg.watcher.IsOf composition ∧
      (msg ∈ s.engine.dispatch.pending ∨ t.Queues done msg)) ∧
    ((∀ es now a w, .visit es now a w ∈ ms → ¬ w.IsOf composition) ∨
        s.Severs outage composition ms →
      (∀ done msg, t.RecallsIn composition ms done msg → msg ∈ s.engine.dispatch.pending) ∧
      ((∀ msg ∈ s.engine.dispatch.pending, ¬ msg.watcher.IsOf composition) →
        t.StaysForgotten composition ms)) ∧
    (t.StaysForgotten composition ms → ∀ done u, done <+: ms → t.run? done = some u →
      ∀ w : Watcher, w.IsOf composition → ActiveSet.seeded u.store w = w) := by
  intro t
  have hforgotten : ¬ t.store.Remembers composition := by
    rw [s.store_cleanUp hworks]
    exact Store.not_remembers_deleteCursors _ composition
  have hiff := staysForgotten_iff hhand hforgotten
  have htraffic : t.engine.dispatch = s.engine.dispatch :=
    congrArg Traffic.dispatch (s.cleanUp_refreshed outage composition).traffic
  rw [← htraffic]
  refine ⟨hiff, fun done msg h => h.pending, fun hshown => ?_, ?_⟩
  · have hvisits : ∀ es now a w, .visit es now a w ∈ ms → ¬ w.IsOf composition :=
      hshown.elim id fun h _ _ _ _ hvisit => h.not_isOf hworks hvisit
    refine ⟨fun done msg h => h.pending_of_visits hvisits, fun hquiet => hiff.2 ?_⟩
    exact fun done msg h => hquiet msg (h.pending_of_visits hvisits) h.pending.1
  · exact fun h done u hdone hrun w hw => Store.seeded_of_not_remembers (h done u hdone hrun) hw

end System

/-! The watcher of a compiled edge, whose action is in flight or has ended when its composition is
deleted. -/

namespace Sample

/-- Compiles the edge from `p` to `t`, which both run, as one of a composition. -/
def compiling (composition : String) : Move :=
  .compile .none scripts .default default { produced with id := composition }

/-- The edge, with what its glyphs are. -/
def hop : KnownEdge := ⟨⟨"p", "t", "right", 0⟩, .python, .python⟩

/-- What the compilation leaves active. -/
def runner (composition : String) : Watcher :=
  (Condition.produced "p").watcher ⟨composition, .default, default⟩ hop

theorem isOf_runner : (runner "c").IsOf "c" :=
  ⟨Cursor.keyOf "c" "p" "t", ⟨"p", "t", rfl⟩, hop.action "c",
    EdgeAction.ofPayload?_toPayload (by decide), rfl⟩

/-- The watcher is shown what `p` has produced, and its action is invoked. -/
def running (composition : String) : List Move :=
  [.arrive (product "p"), .visit ⟨none, none⟩ 0 (product "p") (runner composition), .proceed,
    .proceed, .invoke 0 0]

def flying : List Move := [compiling "c", .start .none true, .wake] ++ running "c"

/-- The action in flight ends well. -/
def landing : Move := .finish .none default 0 (.ok ())

/-- Another composition is compiled, and an action of it ends well. -/
def onwards : List Move := compiling "d" :: (running "d" ++ [landing])

theorem landing_by_hand (composition : String) : ∀ m ∈ [landing], ¬ m.StoresByHand composition := by
  simp [landing, Move.StoresByHand]

theorem onwards_by_hand (composition : String) : ∀ m ∈ onwards, ¬ m.StoresByHand composition := by
  simp [onwards, running, compiling, landing, Move.StoresByHand]

variable {s u : System}

/-- The action that is in flight at the deletion brings a cursor back. -/
theorem exists_landed : ∃ s t, idle.run? flying = some s ∧
    (s.cleanUp .none "c").1.run? [landing] = some t ∧ t.store.Remembers "c" := by
  have hrun : (idle.run? flying).any (fun s => ((s.cleanUp .none "c").1.run? [landing]).any
      fun t => (t.store.cursor? "c" "p" "t").isSome) = true := by
    decide +kernel
  obtain ⟨s, hs, hlater⟩ := (Option.any_eq_true _ _).1 hrun
  obtain ⟨t, ht, hcursor⟩ := (Option.any_eq_true _ _).1 hlater
  exact ⟨s, t, hs, ht, "p", "t", hcursor⟩

/-- The deletion finds all that the compilation has left. -/
theorem confines_flown (hs : idle.run? (flying ++ [landing]) = some s) : s.Confines "c" := by
  refine System.confines_run hs (List.forall_mem_cons.2 ⟨?_, ?_⟩) fun k w hk => by cases hk
  · exact Move.not_misplaces_compile (by decide) (by decide)
  · simp [running, landing, Move.Misplaces]

/-- What follows has nothing to do with the composition that was deleted. -/
theorem severs_onwards (hs : idle.run? (flying ++ [landing]) = some s)
    (hreloaded : (s.cleanUp .none "c").2.reloaded = true)
    (hu : (s.cleanUp .none "c").1.run? [compiling "d"] = some u)
    (hactive : runner "d" ∈ u.engine.active.watchers.values) : s.Severs .none "c" onwards where
  clears := ⟨by decide, confines_flown hs, rfl, hreloaded⟩
  unrevived := by
    refine List.forall_mem_cons.2 ⟨fun hrevives => ?_, ?_⟩
    · exact absurd ((Move.revives_compile_iff (by decide) (by decide)).1 hrevives) (by decide)
    · simp [running, landing, Move.Revives]
  shows := by
    intro es now a w hvisit
    obtain ⟨-, -, -, rfl⟩ : es = ⟨none, none⟩ ∧ now = 0 ∧ a = product "p" ∧ w = runner "d" := by
      simpa [onwards, running, compiling, landing] using hvisit
    exact ⟨[compiling "d"], u, ⟨_, rfl⟩, hu, hactive⟩

end Sample

namespace System

/-- It is not so that deleting a composition, with both removals succeeding, leaves it without
cursors as long as it is not compiled again and none is stored by hand, not even if everything began
with a new engine and an empty store. -/
theorem not_forgotten : ¬ ∀ (o s t : System) (engine : EngineConfig) (exports : Bool)
    (outage : Outage) (composition : String) (before after : List Move),
    Engine.build engine exports = .ok o.engine → o.store = .empty → o.run? before = some s →
    Naming.isSegment composition = true →
    outage (.deleteByStem (Naming.edgeStem composition)) = none →
    outage (.deleteCursors composition) = none →
    (∀ m ∈ after, ¬ m.StoresByHand composition) →
    (∀ outage resolver config now c, .compile outage resolver config now c ∈ after →
      c.id ≠ composition) →
    (s.cleanUp outage composition).1.run? after = some t → ¬ t.store.Remembers composition := by
  intro hall
  obtain ⟨s, t, hs, ht, hremembers⟩ := Sample.exists_landed
  refine hall Sample.idle s t Sample.tight false .none "c" _ _ Sample.build_engine rfl hs (by decide)
    rfl rfl (Sample.landing_by_hand "c") ?_ ht hremembers
  intro outage resolver config now c hm
  cases List.mem_singleton.1 hm

/-- Once the action of the sample has ended, deleting the composition forgets it for good, whatever
another composition goes through; a deletion while the action is in flight does not. -/
theorem sample_forgotten :
    (∃ s t, Sample.idle.run? (Sample.flying ++ [Sample.landing]) = some s ∧
      s.store.Remembers "c" ∧ (s.cleanUp .none "c").1.run? Sample.onwards = some t ∧
      t.store.Remembers "d" ∧ (s.cleanUp .none "c").1.StaysForgotten "c" Sample.onwards ∧
      ActiveSet.seeded t.store (Sample.runner "c") = Sample.runner "c") ∧
    ∃ s t done msg, Sample.idle.run? Sample.flying = some s ∧
      (s.cleanUp .none "c").1.run? [Sample.landing] = some t ∧ t.store.Remembers "c" ∧
      (s.cleanUp .none "c").1.RecallsIn "c" [Sample.landing] done msg ∧
      msg.watcher.IsOf "c" ∧ msg ∈ s.engine.dispatch.pending := by
  constructor
  · have hrun : (Sample.idle.run? (Sample.flying ++ [Sample.landing])).any (fun s =>
        (s.store.cursor? "c" "p" "t").isSome ∧ s.engine.dispatch.pending.isEmpty ∧
        (s.cleanUp .none "c").2.reloaded ∧
        (((s.cleanUp .none "c").1.run? [Sample.compiling "d"]).any fun u =>
          Sample.runner "d" ∈ u.engine.active.watchers.values) ∧
        ((s.cleanUp .none "c").1.run? Sample.onwards).any fun t =>
          (t.store.cursor? "d" "p" "t").isSome) = true := by
      decide +kernel
    obtain ⟨s, hs, hfacts⟩ := (Option.any_eq_true _ _).1 hrun
    obtain ⟨hcursor, hquiet, hreloaded, hcompiled, hlater⟩ := of_decide_eq_true hfacts
    obtain ⟨u, hu, hactive⟩ := (Option.any_eq_true _ _).1 hcompiled
    obtain ⟨t, ht, hother⟩ := (Option.any_eq_true _ _).1 hlater
    have hsevers := Sample.severs_onwards hs hreloaded hu (of_decide_eq_true hactive)
    obtain ⟨-, -, hsevered, hopen⟩ := @forgets_iff s .none "c" Sample.onwards rfl
      (Sample.onwards_by_hand "c")
    have hstays := (hsevered (.inr hsevers)).2 (by simp [List.isEmpty_iff.1 hquiet])
    exact ⟨s, t, hs, ⟨"p", "t", hcursor⟩, ht, ⟨"p", "t", hother⟩, hstays,
      hopen hstays _ t List.prefix_rfl ht _ Sample.isOf_runner⟩
  · obtain ⟨s, t, hs, ht, hremembers⟩ := Sample.exists_landed
    obtain ⟨hstays, hof, hpending, -⟩ := @forgets_iff s .none "c" [Sample.landing] rfl
      (Sample.landing_by_hand "c")
    obtain ⟨done, msg, hrecalls⟩ : ∃ done msg,
        (s.cleanUp .none "c").1.RecallsIn "c" [Sample.landing] done msg := by
      by_contra hnone
      push Not at hnone
      exact hstays.2 hnone _ t List.prefix_rfl ht hremembers
    refine ⟨s, t, done, msg, hs, ht, hremembers, hrecalls, (hof done msg hrecalls).1, ?_⟩
    refine (hpending (.inl ?_)).1 done msg hrecalls
    intro es now a w hvisit
    cases List.mem_singleton.1 hvisit

end System

end Watchtower
