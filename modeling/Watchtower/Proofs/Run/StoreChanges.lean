import Mathlib.Logic.Relation
import Mathlib.Tactic.Common
import Watchtower.Proofs.Compilation.CleanUp
import Watchtower.Proofs.Compilation.Convergence
import Watchtower.Proofs.Run

/-!
What moves write.

Whatever a move does to the store, it does by changes made one after the other, and which changes
these can be is read off the move and its effect (`Move.Makes`, `System.step_evolves`). What the
changes of a kind keep, every move that makes only such changes keeps (`Store.Evolves.keeps`); in
particular every move leads from a reachable store to a reachable one (`System.reachable_step`).
-/

namespace Watchtower

namespace Store

/-- Some changes of a kind, made one after the other, lead from one store to the other. -/
def Evolves (kind : StoreChange → Prop) : Store → Store → Prop :=
  Relation.ReflTransGen fun s t => ∃ c, kind c ∧ t = s.apply c

variable {kind kind' : StoreChange → Prop} {s t : Store}

theorem Evolves.refl : Evolves kind s s := Relation.ReflTransGen.refl

theorem evolves_apply (s : Store) (c : StoreChange) (hc : kind c) : Evolves kind s (s.apply c) :=
  .single ⟨c, hc, rfl⟩

theorem Evolves.mono (h : Evolves kind s t) (hkind : ∀ c, kind c → kind' c) : Evolves kind' s t :=
  Relation.ReflTransGen.mono (fun _ _ ⟨c, hc, ht⟩ => ⟨c, hkind c hc, ht⟩) _ _ h

/-- What each change of a kind keeps, all of them together keep. -/
theorem Evolves.keeps {P : Store → Prop} (h : Evolves kind s t)
    (hkeeps : ∀ s c, kind c → P s → P (s.apply c)) (hs : P s) : P t := by
  induction h with
  | refl => exact hs
  | tail _ hstep ih =>
    obtain ⟨c, hc, rfl⟩ := hstep
    exact hkeeps _ c hc ih

theorem Evolves.reachable (h : Evolves kind s t) (hs : s.Reachable) : t.Reachable :=
  h.keeps (fun _ c _ hs => hs.apply c) hs

end Store

open Store (Evolves evolves_apply)

/-! ### Which changes a move makes -/

namespace Book

/-- The book as a change of the store. -/
def change : Book → StoreChange
  | fire id at_ => .recordFire id at_
  | error id message => .recordError id message
  | cursor c => .upsertCursor c

/-- The call that keeps the book. -/
def call : Book → StoreCall
  | fire id _ => .recordFire id
  | error id _ => .recordError id
  | cursor c => .upsertCursor c.composition c.source c.target

/-- An attempt that succeeds makes its change, and its call works. -/
theorem result_attempt {a : Access} {b : Book} {t : Store} (h : (b.attempt a).result = .ok t) :
    a.outage b.call = none ∧ t = a.store.apply b.change := by
  cases b with
  | fire id at_ =>
    obtain ⟨hworks, hwrite⟩ := Access.attempt_result.1 h
    have hwrite : a.store.recordFire id at_ = .ok t := hwrite
    refine ⟨hworks, ?_⟩
    rw [change, Store.apply, hwrite]
    rfl
  | error id message =>
    obtain ⟨hworks, hwrite⟩ := Access.attempt_result.1 h
    have hwrite : a.store.recordError id message = .ok t := hwrite
    refine ⟨hworks, ?_⟩
    rw [change, Store.apply, hwrite]
    rfl
  | cursor c =>
    obtain ⟨hworks, hwrite⟩ := Access.attempt_result.1 h
    exact ⟨hworks, (Except.ok.inj hwrite).symm⟩

end Book

/-- The write is one of those that a plan for the composition comes to. -/
def Write.IsPlanned (resolver : Resolver) (config : CompilerConfig) (now : Moment) (c : Composition)
    (w : Write) : Prop :=
  Naming.isSegment c.id = true ∧ ∃ (a : Access) (existing : Table Watcher) (plan : Plan),
    (Plan.make a resolver ⟨c.id, config, now⟩ c).result = .ok plan ∧
      w ∈ Write.plan existing plan.desired now

namespace Move

/-- The changes of the store that a move with an effect may make. -/
inductive Makes : Move → Effect → StoreChange → Prop where
  /-- Somebody makes the change. -/
  | change {c : StoreChange} {e : Effect} : Makes (.change c) e c
  | compile {outage : Outage} {resolver : Resolver} {config : CompilerConfig} {now : Moment}
      {c : Composition} {e : Effect} (w : Write) (hw : w.IsPlanned resolver config now c) :
      Makes (.compile outage resolver config now c) e w.change
  | removeWatchers {outage : Outage} {composition : String} {e : Effect} :
      Makes (.cleanUp outage composition) e (.deleteByStem (Naming.edgeStem composition))
  | removeCursors {outage : Outage} {composition : String} {e : Effect}
      (hworks : outage (.deleteCursors composition) = none) :
      Makes (.cleanUp outage composition) e (.deleteCursors composition)
  /-- A book is kept about an action that has ended. -/
  | finish {outage : Outage} {now : Moment} {index : Nat} {outcome : Except Fault Unit}
      {attempts : List Book} {b : Book} (hmade : b ∈ attempts) (hworks : outage b.call = none) :
      Makes (.finish outage now index outcome) (.finished index outcome attempts) b.change
  | giveUp {outage : Outage} {now : Moment} {index : Nat} {e : Effect} (id message : String) :
      Makes (.giveUp outage now index) e (.recordError id message)

end Move

namespace System

variable {s t : System} {m : Move} {e : Effect}

/-! ### What operations write -/

theorem evolves_keepBooks (s : System) (outage : Outage) (w : Watcher) (operation : String)
    (b : Book) : Evolves (fun c => outage b.call = none ∧ c = b.change) s.store
      (s.keepBooks w operation (b.attempt (s.access outage))).1.store := by
  unfold keepBooks
  split
  · next hok =>
    obtain ⟨hworks, rfl⟩ := Book.result_attempt hok
    exact evolves_apply s.store b.change ⟨hworks, rfl⟩
  · exact .refl
  · exact .refl

/-- Books are kept by the attempts that are made. -/
theorem evolves_keep (outage : Outage) (w : Watcher) (bs : List Book) (s : System) :
    Evolves (fun c => ∃ b ∈ (keep outage w bs s).2, outage b.call = none ∧ c = b.change) s.store
      (keep outage w bs s).1.store := by
  induction bs generalizing s with
  | nil => exact .refl
  | cons b bs ih =>
    have hbook := s.evolves_keepBooks outage w b.operation b
    rw [keep_cons]
    split
    · refine (hbook.mono fun c hc => ?_).trans ((ih _).mono fun c ⟨b', hb', hc⟩ => ?_)
      · exact ⟨b, List.mem_cons_self, hc⟩
      · exact ⟨b', List.mem_cons_of_mem _ hb', hc⟩
    · exact hbook.mono fun c hc => ⟨b, List.mem_cons_self, hc⟩

theorem evolves_finish (s : System) (outage : Outage) (now : Moment) (index : Nat) (m : Message)
    (outcome : Except Fault Unit) :
    Evolves (fun c => ∃ b ∈ ((s.withDispatch (s.engine.dispatch.land index)).settle outage now m
        outcome).2, outage b.call = none ∧ c = b.change)
      s.store (s.finish outage now index m outcome).1.store := by
  have hkeep := evolves_keep outage m.watcher (Book.due now m outcome)
    ((s.withDispatch (s.engine.dispatch.land index)).counted m outcome)
  rw [counted_store] at hkeep
  exact hkeep

theorem evolves_commit {o : Outage} (ws : List Write) (c : Commit) :
    Evolves (fun d => ∃ w ∈ ws, d = w.change) c.store (ws.foldl (Commit.step o) c).store := by
  induction ws generalizing c with
  | nil => exact .refl
  | cons w ws ih =>
    rw [List.foldl_cons]
    refine .trans ?_ ((ih _).mono fun d ⟨u, hu, hd⟩ => ⟨u, List.mem_cons_of_mem _ hu, hd⟩)
    cases hc : c.fault with
    | some f =>
      simp only [Commit.step, hc]
      exact .refl
    | none =>
      rcases Commit.step_cases (o := o) hc w with ⟨-, hs⟩ | ⟨-, -, hs⟩
      · exact hs ▸ .refl
      · exact hs ▸ evolves_apply c.store w.change ⟨w, List.mem_cons_self, rfl⟩

theorem evolves_compile (s : System) (outage : Outage) (resolver : Resolver)
    (config : CompilerConfig) (now : Moment) (c : Composition) (e : Effect) :
    Evolves (Move.Makes (.compile outage resolver config now c) e) s.store
      (s.compile outage resolver config now c).1.store := by
  unfold compile
  split
  · exact .refl
  next hid =>
  dsimp only
  split
  · exact .refl
  next existing plan hprepared =>
  obtain ⟨-, -, hplan⟩ := prepare_eq_ok.1 hprepared
  have hmakes : ∀ d, (∃ w ∈ Write.plan (byId existing) plan.desired now, d = w.change) →
      Move.Makes (.compile outage resolver config now c) e d := by
    rintro _ ⟨w, hw, rfl⟩
    exact .compile w ⟨by simpa using hid, s.access outage, _, plan, hplan, hw⟩
  have hcommit := (evolves_commit (o := outage) _ ⟨s.store, [], none, []⟩).mono hmakes
  split
  · exact hcommit
  · simp only [note, reloadIfChanged_store]
    exact hcommit

theorem evolves_removeWatchers (s : System) (outage : Outage) (composition : String) :
    Evolves (· = .deleteByStem (Naming.edgeStem composition)) s.store
      (s.removeWatchers outage composition).1.store := by
  unfold removeWatchers
  split
  · dsimp only
    split
    · next hok =>
      obtain ⟨rfl, -⟩ := Prod.mk.inj (Except.ok.inj (Access.attempt_result.1 hok).2)
      exact evolves_apply s.store (.deleteByStem _) rfl
    · exact .refl
  · exact .refl

/-- No cursors are removed if the call fails. -/
theorem evolves_removeCursors (s : System) (outage : Outage) (composition : String) :
    Evolves (fun c => outage (.deleteCursors composition) = none ∧ c = .deleteCursors composition)
      s.store (s.removeCursors outage composition).1.store := by
  unfold removeCursors
  dsimp only
  split
  · next hok =>
    obtain ⟨hworks, hdone⟩ := Access.attempt_result.1 hok
    obtain ⟨rfl, -⟩ := Prod.mk.inj (Except.ok.inj hdone)
    exact evolves_apply s.store (.deleteCursors _) ⟨hworks, rfl⟩
  · exact .refl

theorem evolves_cleanUp (s : System) (outage : Outage) (composition : String) (e : Effect) :
    Evolves (Move.Makes (.cleanUp outage composition) e) s.store
      (s.cleanUp outage composition).1.store := by
  have hreload := (((s.removeWatchers outage composition).1.removeCursors outage
    composition).1.reloadAfterCleanUp_reloaded outage).store
  rw [cleanUp]
  simp only [note, hreload]
  refine ((s.evolves_removeWatchers ..).mono ?_).trans ((evolves_removeCursors ..).mono ?_)
  · rintro c rfl
    exact .removeWatchers
  · rintro c ⟨hworks, rfl⟩
    exact .removeCursors hworks

/-- A start writes nothing. -/
theorem start_store (s : System) (outage : Outage) (hasRuntime : Bool) :
    (s.start outage hasRuntime).1.store = s.store := by
  obtain ⟨t, _, _, _, rfl | rfl, h⟩ := s.start_reloads outage hasRuntime
  · rw [h]
  · rw [h]
    exact (s.reload_reloaded outage).store

/-- Whatever a move does to the store, it does by changes that it makes. -/
theorem step_evolves (h : s.step? m = some (t, e)) : Evolves (m.Makes e) s.store t.store := by
  cases step_of_step? h with
  | start outage hasRuntime => exact s.start_store outage hasRuntime ▸ .refl
  | stop =>
    unfold stop
    split <;> exact .refl
  | reload outage => exact (s.reload_reloaded outage).store ▸ .refl
  | compile => exact s.evolves_compile ..
  | cleanUp => exact s.evolves_cleanUp ..
  | change c => exact evolves_apply s.store c .change
  | arrive | ignore | visit | wake | proceed | invoke => exact .refl
  | finish outage now index outcome =>
    refine (s.evolves_finish outage now index _ outcome).mono ?_
    rintro c ⟨b, hmade, hworks, rfl⟩
    exact .finish hmade hworks
  | giveUp outage now index =>
    refine (s.evolves_finish outage now index _ _).mono ?_
    rintro c ⟨b, hmade, -, rfl⟩
    -- a failure is recorded as an error and as nothing else
    rw [settle, Book.due, keep_singleton, List.mem_singleton] at hmade
    rw [hmade]
    exact .giveUp ..

/-- Every move keeps the store reachable. -/
theorem reachable_step (h : s.step? m = some (t, e)) (hs : s.store.Reachable) :
    t.store.Reachable := (step_evolves h).reachable hs

end System

end Watchtower
