import Watchtower.Proofs.Compilation.Meaning
import Watchtower.Proofs.Intake
import Watchtower.Proofs.Run.CursorProgress
import Watchtower.Proofs.Run.Ledger

/-!
What is replayed after a restart.

An engine that takes over a store, be it by a reload or as a new one, starts the watchers of an edge
where the edge's cursor stands, and nothing that happens later undoes this as long as the cursor is
spared (`System.Continues.sheltered`). Time gates admit the moment at which they start. So an
attestation that was processed before is shut out if the cursor has gone on to a later one, and is
matched once more if the gate starts at its own timestamp (`System.replayed_iff`): nobody asks for
the id that the cursor keeps.
-/

namespace Watchtower

/-- The key of the edge's cursor. -/
def EdgeAction.cursorKey (e : EdgeAction) : String := Cursor.keyOf e.composition e.source e.target

/-- The watcher belongs to an edge whose cursor is under the key. -/
def Watcher.Follows (w : Watcher) (key : String) : Prop :=
  ∃ e ∈ w.rule.edge?, e.cursorKey = key

/-! ### Engines that take over a store -/

namespace ActiveSet

/-- The active watchers of an edge start no earlier than the moment. -/
def StartsAt (set : ActiveSet) (key : String) (at_ : Moment) : Prop :=
  ∀ w ∈ set.watchers.values, w.Follows key →
    ∃ start, w.rule.filter.timeStart = some start ∧ ¬ start.Before at_

theorem startsAt_empty (key : String) (at_ : Moment) : empty.StartsAt key at_ := by
  intro w hw
  cases hw

theorem timeStart_gate (w : Watcher) (from_ : Moment) : ∃ start,
    (gate w from_).rule.filter.timeStart = some start ∧ ¬ start.Before from_ := by
  refine ⟨_, rfl, ?_⟩
  cases w.rule.filter.timeStart with
  | none => exact from_.not_before_self
  | some existing =>
    exact (Moment.not_before_later.1 (existing.later from_).not_before_self).2

theorem seeded_of_cursor {s : Store} {w : Watcher} {e : EdgeAction} {k : Cursor}
    (he : w.rule.edge? = some e) (hk : s.cursor? e.composition e.source e.target = some k) :
    seeded s w = gate w k.lastAt := by
  unfold seeded
  rw [he]
  dsimp only
  rw [hk]

/-- In the active set of a store, watchers of edges start no earlier than their cursors. -/
theorem startsAt_ofStore {s : Store} {key : String} {at_ : Moment} (h : s.Reached key at_) :
    (ofStore s).StartsAt key at_ := by
  intro v hv ⟨e, he, hkey⟩
  subst hkey
  obtain ⟨id, hid⟩ := Table.mem_values.1 hv
  obtain ⟨w, -, hw⟩ := List.mem_map.1 (Table.mem_of_get?_ofList hid)
  obtain ⟨-, rfl⟩ := Prod.mk.inj hw
  rw [seeded_edge?, Option.mem_def] at he
  obtain ⟨k, hk, hreached⟩ := h
  obtain ⟨start, hstart, hlater⟩ := timeStart_gate w k.lastAt
  rw [seeded_of_cursor he hk]
  exact ⟨start, hstart, Moment.not_before_trans hreached hlater⟩

end ActiveSet

namespace System

/-- The edge's cursor has come as far as the moment, and so have the active watchers of the edge. -/
structure Sheltered (key : String) (at_ : Moment) (s : System) : Prop where
  store : s.store.Reached key at_
  active : s.engine.active.StartsAt key at_

/-- An engine takes over the store, and the cursor under the key is spared. -/
inductive Renews (key : String) (s : System) : System → Prop where
  | reload {outage : Outage} {t : System} (h : s.reload outage = (t, .ok ())) : Renews key s t
  /-- A compilation reloads at its end. -/
  | compile {outage : Outage} {resolver : Resolver} {config : CompilerConfig} {now : Moment}
      {c : Composition} {t : System} {r : Compiled}
      (h : s.compile outage resolver config now c = (t, .ok r)) (hr : r.report.reloaded = true) :
      Renews key s t
  /-- A clean-up reloads at its end. -/
  | cleanUp {outage : Outage} {composition : String}
      (hkey : (Move.cleanUp outage composition).loses key = false)
      (hr : (s.cleanUp outage composition).2.reloaded = true) :
      Renews key s (s.cleanUp outage composition).1
  /-- A new engine is built, which may be started later on. -/
  | rebuild {config : EngineConfig} {exports : Bool} {t : System} (hstore : t.store = s.store)
      (h : Engine.build config exports = .ok t.engine) : Renews key s t

/-- Something happens to the system, and the cursor under the key is spared. -/
inductive Continues (key : String) (s : System) : System → Prop where
  | move {m : Move} {e : Effect} {t : System} (hm : m.loses key = false)
      (h : s.step? m = some (t, e)) : Continues key s t
  | renew {t : System} (h : s.Renews key t) : Continues key s t

/-- Things happen one after the other, and the cursor under the key is spared. -/
def Lasts (key : String) : System → System → Prop := Relation.ReflTransGen (Continues key)

variable {s t u : System} {key : String} {at_ : Moment}

/-- Whoever takes over the store starts the watchers of the edge where the cursor is. -/
theorem Renews.sheltered (h : s.Renews key t) (hs : s.store.Reached key at_) :
    t.Sheltered key at_ := by
  cases h with
  | reload h =>
    obtain ⟨hstore, hengine⟩ := reload_eq_ok h
    refine ⟨hstore ▸ hs, ?_⟩
    rw [hengine]
    exact ActiveSet.startsAt_ofStore hs
  | @compile outage resolver config now c t r h hr =>
    have hstep : s.step? (.compile outage resolver config now c) = some (t, .none) := by
      rw [step?, h]
    have hspares : Store.Spares key s.store t.store := step_spares hstep rfl
    refine ⟨hs.of_spares hspares, ?_⟩
    rw [active_of_reloaded h hr]
    exact ActiveSet.startsAt_ofStore (hs.of_spares hspares)
  | cleanUp hkey hr =>
    have ht := hs.of_spares (step_spares (m := .cleanUp _ _) rfl hkey)
    refine ⟨ht, ?_⟩
    rw [active_of_cleanUp hr]
    exact ActiveSet.startsAt_ofStore ht
  | rebuild hstore h =>
    refine ⟨hstore ▸ hs, ?_⟩
    rw [(Engine.build_eq_ok h).2.1]
    exact ActiveSet.startsAt_empty key at_

theorem Continues.reached (h : s.Continues key t) (hs : s.store.Reached key at_) :
    t.store.Reached key at_ := by
  cases h with
  | move hm h => exact hs.of_spares (step_keeps h hm).store
  | renew h => exact (h.sheltered hs).store

theorem Continues.sheltered (h : s.Continues key t) (hs : s.Sheltered key at_) :
    t.Sheltered key at_ := by
  cases h with
  | move hm h =>
    have hkeeps := step_keeps h hm
    have ht := hs.store.of_spares hkeeps.store
    refine ⟨ht, ?_⟩
    rcases hkeeps.active with hactive | hactive
    · rw [hactive]
      exact hs.active
    · rw [hactive]
      exact ActiveSet.startsAt_ofStore ht
  | renew h => exact h.sheltered hs.store

theorem Lasts.reached (h : Lasts key s t) (hs : s.store.Reached key at_) :
    t.store.Reached key at_ := by
  induction h with
  | refl => exact hs
  | tail _ h ih => exact h.reached ih

theorem Lasts.sheltered (h : Lasts key s t) (hs : s.Sheltered key at_) : t.Sheltered key at_ := by
  induction h with
  | refl => exact hs
  | tail _ h ih => exact h.sheltered ih

/-- Moves that spare the cursor are things that happen. -/
theorem lasts_of_run {ms : List Move} (h : s.run? ms = some t)
    (hms : ∀ m ∈ ms, m.loses key = false) : Lasts key s t := by
  induction ms generalizing s with
  | nil =>
    obtain rfl := Option.some.inj h
    exact .refl
  | cons m ms ih =>
    obtain ⟨u, e, hstep, hrest⟩ := run?_cons_eq_some.1 h
    exact .head (.move (hms m List.mem_cons_self) hstep)
      (ih hrest fun n hn => hms n (List.mem_cons_of_mem _ hn))

/-! ### Attestations that were processed -/

/-- The action of a message for an edge ends well, and the store accepts the cursor of the edge. -/
structure Completes (s : System) (m : Message) (e : EdgeAction) (t : System) : Prop where
  edge : m.watcher.rule.edge? = some e
  stored : ∃ (outage : Outage) (now : Moment) (index gate : Nat) (attempts : List Book),
    s.engine.dispatch.flights[index]? = some ⟨m, some gate⟩ ∧
    s.step? (.finish outage now index (.ok ())) = some (t, .finished index (.ok ()) attempts) ∧
    .cursor ⟨e.composition, e.source, e.target, m.attestation.id, m.attestation.timestamp⟩ ∈
      attempts ∧
    outage (.upsertCursor e.composition e.source e.target) = none

theorem Completes.reached {m : Message} {e : EdgeAction} (h : s.Completes m e t) :
    t.store.Reached e.cursorKey m.attestation.timestamp := by
  obtain ⟨hedge, outage, now, index, gate, attempts, hflight, hstep, hmade, hworks⟩ := h
  simp only [step?, hflight, Option.some.injEq, finish, Prod.mk.injEq, Effect.finished.injEq,
    true_and] at hstep
  obtain ⟨rfl, rfl⟩ := hstep
  exact reached_settle (c := ⟨e.composition, e.source, e.target, m.attestation.id,
    m.attestation.timestamp⟩) (by rw [cursorAfter?, hedge]; rfl) hworks hmade

/-- An active watcher of a sheltered edge matches an attestation of the moment exactly if it starts
at this very moment and accepts the attestation otherwise. -/
theorem Sheltered.matches_iff {a : Attestation} (h : s.Sheltered key a.timestamp)
    {w : Watcher} (hw : w ∈ s.engine.active.watchers.values) (hfollows : w.Follows key)
    (es : Evaluators) : w ∈ s.matching es a ↔
      s.engine.isRunning = true ∧ w.rule.filter.timeStart = some a.timestamp ∧
        w.rule.filter.admits a.timestamp = true ∧
        w.rule.Accepts es s.engine.config.defaultThreshold a := by
  have hmatching : w ∈ s.matching es a ↔ s.engine.isRunning = true ∧
      (es.judge s.engine.config.defaultThreshold w a).matched = true := by
    unfold matching matches_
    split
    · next hr => simp [hr, hw]
    · next hr => simp [hr]
  rw [hmatching, Evaluators.matched_iff]
  refine and_congr_right fun _ => ⟨fun ⟨hadmits, haccepts⟩ => ⟨?_, hadmits, haccepts⟩, And.right⟩
  obtain ⟨start, hstart, hlater⟩ := h.active w hw hfollows
  have hgate : ¬ a.timestamp.Before start := by
    simp only [Filter.admits, hstart, Option.any_some, Bool.and_eq_true, Bool.not_eq_true',
      decide_eq_false_iff_not] at hadmits
    exact hadmits.1
  rw [hstart, Moment.eq_of_not_before hlater hgate]

/-- Let the action of an attestation for an edge have ended well and the edge's cursor been stored,
and let an engine have taken over the store since, whatever else happened before and after this. If
the attestation comes in again, the watchers of the edge for which it is published, and perhaps
queued, are those whose time gate starts at its own timestamp and that accept it otherwise. There
are none if the cursor stood at a later moment when the store was taken over. -/
theorem replayed_iff {m : Message} {e : EdgeAction} {v x : System} (hdone : s.Completes m e t)
    (hbefore : Lasts e.cursorKey t u) (hover : u.Renews e.cursorKey v)
    (hafter : Lasts e.cursorKey v x) (es : Evaluators) (now : Nat) :
    ∃ queued, x.Attested es now m.attestation queued ∧
      ∀ w ∈ x.engine.active.watchers.values, w.Follows e.cursorKey →
        (w ∈ x.matching es m.attestation ↔
          x.engine.isRunning = true ∧ w.rule.filter.timeStart = some m.attestation.timestamp ∧
            w.rule.filter.admits m.attestation.timestamp = true ∧
            w.rule.Accepts es x.engine.config.defaultThreshold m.attestation) ∧
        ∀ k ∈ u.store.cursor? e.composition e.source e.target,
          m.attestation.timestamp.Before k.lastAt → w ∉ x.matching es m.attestation := by
  obtain ⟨queued, hattested⟩ := x.attest_attested es now m.attestation
  have hu := hbefore.reached hdone.reached
  refine ⟨queued, hattested, fun w hw hfollows => ?_⟩
  have hiff := (hafter.sheltered (hover.sheltered hu)).matches_iff hw hfollows es
  refine ⟨hiff, fun k hk hlater hmatching => ?_⟩
  -- the watcher starts where the cursor stood, and so after the attestation
  have hk : u.store.Reached e.cursorKey k.lastAt := ⟨k, hk, k.lastAt.not_before_self⟩
  obtain ⟨start, hstart, hreached⟩ := (hafter.sheltered (hover.sheltered hk)).active w hw hfollows
  rw [(hiff.1 hmatching).2.1] at hstart
  obtain rfl := Option.some.inj hstart
  exact hreached hlater

end System

/-! A watcher of an edge that matches everything, and two attestations one second apart. -/

namespace Sample

def edge : EdgeAction := ⟨"t", none, "c", "f"⟩

def follower : Watcher := { hook with rule := { hook.rule with payload := edge.toPayload } }

def following : System := { idle with store := Store.empty.apply (.create follower) }

/-- The attestation is a match of the watcher, and the action is invoked. -/
def fly (w : Watcher) (id : String) (seconds : Int) : List Move :=
  [.visit ⟨none, none⟩ 0 (.bare id ⟨seconds, 0⟩) w, .proceed, .proceed, .invoke 0 0]

def aloft : List Move := [.start .none true, .wake] ++ fly follower "a" 0

def later : List Move := fly follower "b" 1 ++ [.finish .none default 0 (.ok ())]

/-- The system once the first action in flight has ended well. -/
def landed (s : System) (f : Flight) : System := (s.finish .none default 0 f.message (.ok ())).1

/-- The first attestation is in flight for the edge, and the cursor of the edge is stored when its
action ends. -/
def lands (s : System) (f : Flight) : Bool :=
  f.gate = some 0 ∧ f.message.watcher.rule.edge? = some edge ∧ f.message.attestation.id = "a" ∧
    f.message.attestation.timestamp = default ∧
    .cursor ⟨"c", "f", "t", f.message.attestation.id, f.message.attestation.timestamp⟩ ∈
      ((s.withDispatch (s.engine.dispatch.land 0)).settle .none default f.message (.ok ())).2

theorem completes_landed {s : System} {f : Flight} (hf : s.engine.dispatch.flights[0]? = some f)
    (h : lands s f = true) : s.Completes f.message edge (landed s f) := by
  obtain ⟨hgate, hedge, -, -, hmade⟩ := of_decide_eq_true h
  have hflight : s.engine.dispatch.flights[0]? = some ⟨f.message, some 0⟩ := by
    rw [hf, ← hgate]
  refine ⟨hedge, .none, default, 0, 0, _, hflight, ?_, hmade, rfl⟩
  simp only [System.step?, hflight]
  rfl

end Sample

namespace System

/-- In the sample the second attestation is processed too before the engine reloads. The watcher of
the edge is active then, but the first attestation is not matched again. -/
theorem sample_not_replayed : ∃ s m t u v, Sample.following.run? Sample.aloft = some s ∧
    s.Completes m Sample.edge t ∧ m.attestation.id = "a" ∧ t.run? Sample.later = some u ∧
    u.reload .none = (v, .ok ()) ∧ v.engine.isRunning = true ∧
    ∃ w ∈ v.engine.active.watchers.values, w.Follows Sample.edge.cursorKey ∧
      ∀ es, w ∉ v.matching es m.attestation := by
  have hrun : (Sample.following.run? Sample.aloft).any (fun s =>
      s.engine.dispatch.flights[0]?.any fun f => Sample.lands s f ∧
        ((Sample.landed s f).run? Sample.later).any fun u =>
          let v := (u.reload .none).1
          u.store.cursor? "c" "f" "t" = some ⟨"c", "f", "t", "b", ⟨1, 0⟩⟩ ∧
            (u.reload .none).2 = .ok () ∧ v.engine.isRunning = true ∧
            v.engine.active.watchers.values.any fun w => w.rule.edge? = some Sample.edge) =
      true := by
    decide +kernel
  obtain ⟨s, hs, hflight⟩ := (Option.any_eq_true _ _).1 hrun
  obtain ⟨f, hf, hfacts⟩ := (Option.any_eq_true _ _).1 hflight
  obtain ⟨hlands, hlater⟩ := of_decide_eq_true hfacts
  obtain ⟨-, -, hid, htime, -⟩ := of_decide_eq_true hlands
  obtain ⟨u, hu, hafter⟩ := (Option.any_eq_true _ _).1 hlater
  obtain ⟨hcursor, hok, hrunning, hactive⟩ := of_decide_eq_true hafter
  obtain ⟨w, hw, hedge⟩ := List.any_eq_true.1 hactive
  have hfollows : w.Follows Sample.edge.cursorKey := ⟨_, of_decide_eq_true hedge, rfl⟩
  have hdone := Sample.completes_landed hf hlands
  have hreload : u.reload .none = ((u.reload .none).1, .ok ()) := Prod.ext rfl hok
  have hbefore : Lasts Sample.edge.cursorKey _ u := lasts_of_run hu (by decide)
  refine ⟨s, f.message, _, u, _, hs, hdone, hid, hu, hreload, hrunning, w, hw, hfollows, ?_⟩
  intro es
  obtain ⟨-, -, hnot⟩ := replayed_iff hdone hbefore (.reload hreload) .refl es 0
  have hearlier : f.message.attestation.timestamp.Before ⟨1, 0⟩ := by
    rw [htime]
    decide
  exact (hnot w hw hfollows).2 _ hcursor hearlier

/-- In the sample the engine reloads right after the first attestation is processed, and the
attestation is matched and queued again. -/
theorem sample_replayed : ∃ s m t v, Sample.following.run? Sample.aloft = some s ∧
    s.Completes m Sample.edge t ∧ m.attestation.id = "a" ∧ t.reload .none = (v, .ok ()) ∧
    (v.matching ⟨none, none⟩ m.attestation).map (·.id) = ["w"] ∧
    (v.attest ⟨none, none⟩ 0 m.attestation).2.1 = 1 := by
  have hrun : (Sample.following.run? Sample.aloft).any (fun s =>
      s.engine.dispatch.flights[0]?.any fun f => Sample.lands s f ∧
        let v := ((Sample.landed s f).reload .none).1
        ((Sample.landed s f).reload .none).2 = .ok () ∧
          (v.matching ⟨none, none⟩ f.message.attestation).map (·.id) = ["w"] ∧
          (v.attest ⟨none, none⟩ 0 f.message.attestation).2.1 = 1) = true := by
    decide +kernel
  obtain ⟨s, hs, hflight⟩ := (Option.any_eq_true _ _).1 hrun
  obtain ⟨f, hf, hfacts⟩ := (Option.any_eq_true _ _).1 hflight
  obtain ⟨hlands, hok, hmatching, hqueued⟩ := of_decide_eq_true hfacts
  obtain ⟨-, -, hid, -⟩ := of_decide_eq_true hlands
  exact ⟨s, f.message, _, _, hs, Sample.completes_landed hf hlands, hid, Prod.ext rfl hok,
    hmatching, hqueued⟩

end System

end Watchtower
