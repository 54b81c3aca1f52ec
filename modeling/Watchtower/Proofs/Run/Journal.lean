import Mathlib.Tactic.Common
import Watchtower.Proofs.Compilation.CleanUp
import Watchtower.Proofs.Compilation.Interruption
import Watchtower.Proofs.Run

/-!
Nobody reads the journal.

Systems that are the same but for their journals (`System.quiet`) do the same and answer the same,
whatever is asked of them. There is one lemma for each operation; what holds of all of them holds of
every move (`System.step?_congr`) and so of every run (`System.run?_congr`).
-/

namespace Watchtower

namespace System

/-- The system without its journal. -/
def quiet (s : System) : System := { s with journal := [] }

/-- An answer with the system without its journal. -/
def hush {α : Type} (x : System × α) : System × α := (x.1.quiet, x.2)

variable {s t : System}

@[simp] theorem quiet_note (s : System) (events : List Event) : (s.note events).quiet = s.quiet := rfl

theorem exists_journal (h : s.quiet = t.quiet) : ∃ journal, t = { s with journal } := by
  obtain ⟨store, engine, metrics, journal⟩ := s
  obtain ⟨store', engine', metrics', journal'⟩ := t
  simp only [quiet, mk.injEq, and_true] at h
  obtain ⟨rfl, rfl, rfl⟩ := h
  exact ⟨journal', rfl⟩

theorem store_eq (h : s.quiet = t.quiet) : s.store = t.store := by
  obtain ⟨journal, rfl⟩ := exists_journal h
  rfl

theorem engine_eq (h : s.quiet = t.quiet) : s.engine = t.engine := by
  obtain ⟨journal, rfl⟩ := exists_journal h
  rfl

theorem hush_eq_iff {α : Type} {x y : System × α} :
    hush x = hush y ↔ x.1.quiet = y.1.quiet ∧ x.2 = y.2 := by
  simp [hush]

/-! ### Operations -/

theorem reload_congr (h : s.quiet = t.quiet) (outage : Outage) :
    hush (s.reload outage) = hush (t.reload outage) := by
  obtain ⟨journal, rfl⟩ := exists_journal h
  unfold reload adopt
  dsimp only [access]
  cases (ActiveSet.gather ⟨s.store, outage⟩).result <;> rfl

/-- Reloads of such systems both succeed, or both fail alike. -/
theorem reload_cases (h : s.quiet = t.quiet) (outage : Outage) : ∃ u v r,
    s.reload outage = (u, r) ∧ t.reload outage = (v, r) ∧ u.quiet = v.quiet := by
  obtain ⟨hsystem, hresult⟩ := hush_eq_iff.1 (reload_congr h outage)
  exact ⟨_, _, _, rfl, Prod.ext rfl hresult.symm, hsystem⟩

theorem start_congr (h : s.quiet = t.quiet) (outage : Outage) (hasRuntime : Bool) :
    hush (s.start outage hasRuntime) = hush (t.start outage hasRuntime) := by
  obtain ⟨u, v, r, hs, ht, hsystem⟩ := reload_cases h outage
  obtain ⟨journal, rfl⟩ := exists_journal h
  obtain ⟨journal', rfl⟩ := exists_journal hsystem
  unfold start
  rw [hs, ht]
  dsimp only
  cases hasRuntime with
  | false => rfl
  | true =>
    cases s.engine.stopped with
    | true => rfl
    | false =>
      simp only [Bool.not_true, Bool.false_eq_true, if_false]
      cases s.engine.dispatch.receiver with
      | parked =>
        cases r with
        | error f => rfl
        | ok =>
          dsimp only
          split <;> rfl
      | waking | waiting | holding | gone => rfl

theorem reloadIfChanged_congr (h : s.quiet = t.quiet) (outage : Outage) (r : CompileReport) :
    hush (s.reloadIfChanged outage r) = hush (t.reloadIfChanged outage r) := by
  obtain ⟨u, v, result, hs, ht, hsystem⟩ := reload_cases h outage
  unfold reloadIfChanged
  rw [hs, ht]
  cases r.changed with
  | false => exact hush_eq_iff.2 ⟨h, rfl⟩
  | true => cases result <;> exact hush_eq_iff.2 ⟨hsystem, rfl⟩

theorem carryOut_congr (h : s.quiet = t.quiet) (outage : Outage) (now : Moment)
    (existing : List Watcher) (plan : Plan) (writes : List Write) :
    hush (s.carryOut outage now existing plan writes) =
      hush (t.carryOut outage now existing plan writes) := by
  obtain ⟨journal, rfl⟩ := exists_journal h
  unfold carryOut
  dsimp only
  cases (Commit.run outage s.store writes).fault with
  | some f => rfl
  | none =>
    rw [hush_eq_iff]
    dsimp only
    rw [quiet_note, quiet_note]
    refine ⟨(hush_eq_iff.1 (reloadIfChanged_congr ?_ outage _)).1,
      congrArg (fun r => Except.ok (Compiled.mk r plan.lookups))
        (hush_eq_iff.1 (reloadIfChanged_congr ?_ outage _)).2⟩ <;> rfl

theorem compile_congr (h : s.quiet = t.quiet) (outage : Outage) (resolver : Resolver)
    (config : CompilerConfig) (now : Moment) (c : Composition) :
    hush (s.compile outage resolver config now c) =
      hush (t.compile outage resolver config now c) := by
  obtain ⟨journal, rfl⟩ := exists_journal h
  have hprepare : System.prepare { s with journal } outage resolver ⟨c.id, config, now⟩ c =
      s.prepare outage resolver ⟨c.id, config, now⟩ c := rfl
  rw [compile_eq_compileBy, compile_eq_compileBy]
  unfold compileBy
  rw [hprepare]
  split
  · rfl
  dsimp only
  split
  · rfl
  · exact carryOut_congr (by rfl) ..

theorem removeWatchers_congr (h : s.quiet = t.quiet) (outage : Outage) (composition : String) :
    hush (s.removeWatchers outage composition) = hush (t.removeWatchers outage composition) := by
  obtain ⟨journal, rfl⟩ := exists_journal h
  unfold removeWatchers
  split
  · dsimp only [access]
    cases (Access.deleteByStem ⟨s.store, outage⟩ (Naming.edgeStem composition)).result <;> rfl
  · rfl

theorem removeCursors_congr (h : s.quiet = t.quiet) (outage : Outage) (composition : String) :
    hush (s.removeCursors outage composition) = hush (t.removeCursors outage composition) := by
  obtain ⟨journal, rfl⟩ := exists_journal h
  unfold removeCursors
  dsimp only [access]
  cases (Access.deleteCursors ⟨s.store, outage⟩ composition).result <;> rfl

theorem reloadAfterCleanUp_congr (h : s.quiet = t.quiet) (outage : Outage) :
    hush (s.reloadAfterCleanUp outage) = hush (t.reloadAfterCleanUp outage) := by
  obtain ⟨u, v, r, hs, ht, hsystem⟩ := reload_cases h outage
  unfold reloadAfterCleanUp
  rw [hs, ht]
  cases r <;> exact hush_eq_iff.2 ⟨hsystem, rfl⟩

theorem cleanUp_congr (h : s.quiet = t.quiet) (outage : Outage) (composition : String) :
    hush (s.cleanUp outage composition) = hush (t.cleanUp outage composition) := by
  obtain ⟨hw, hnw⟩ := hush_eq_iff.1 (removeWatchers_congr h outage composition)
  obtain ⟨hc, hnc⟩ := hush_eq_iff.1 (removeCursors_congr hw outage composition)
  obtain ⟨hr, hreloaded⟩ := hush_eq_iff.1 (reloadAfterCleanUp_congr hc outage)
  rw [cleanUp, cleanUp, hush_eq_iff]
  refine ⟨hr, ?_⟩
  dsimp only
  rw [hnw, hnc, hreloaded]

theorem keepBooks_congr (h : s.quiet = t.quiet) (w : Watcher) (operation : String)
    (write : Traced Store) :
    hush (s.keepBooks w operation write) = hush (t.keepBooks w operation write) := by
  obtain ⟨journal, rfl⟩ := exists_journal h
  unfold keepBooks
  split <;> rfl

theorem keep_congr (h : s.quiet = t.quiet) (outage : Outage) (w : Watcher) (bs : List Book) :
    hush (keep outage w bs s) = hush (keep outage w bs t) := by
  induction bs generalizing s t with
  | nil => exact hush_eq_iff.2 ⟨h, rfl⟩
  | cons b bs ih =>
    have haccess : s.access outage = t.access outage := by rw [access, access, store_eq h]
    obtain ⟨hsystem, hgo⟩ := hush_eq_iff.1 (keepBooks_congr h w b.operation
      (b.attempt (t.access outage)))
    rw [keep_cons, keep_cons, haccess, hgo]
    split
    · obtain ⟨hrest, hmade⟩ := hush_eq_iff.1 (ih hsystem)
      exact hush_eq_iff.2 ⟨hrest, congrArg (b :: ·) hmade⟩
    · exact hush_eq_iff.2 ⟨hsystem, rfl⟩

theorem finish_congr (h : s.quiet = t.quiet) (outage : Outage) (now : Moment) (index : Nat)
    (m : Message) (outcome : Except Fault Unit) :
    hush (s.finish outage now index m outcome) = hush (t.finish outage now index m outcome) := by
  obtain ⟨journal, rfl⟩ := exists_journal h
  have hcounted : ∀ u v : System, u.quiet = v.quiet →
      (u.counted m outcome).quiet = (v.counted m outcome).quiet := by
    intro u v huv
    obtain ⟨journal, rfl⟩ := exists_journal huv
    cases outcome <;> rfl
  obtain ⟨hsettled, hattempts⟩ := hush_eq_iff.1 (keep_congr
    (hcounted (s.withDispatch (s.engine.dispatch.land index))
      (withDispatch { s with journal } (s.engine.dispatch.land index)) rfl)
    outage m.watcher (Book.due now m outcome))
  unfold finish settle
  rw [hush_eq_iff]
  exact ⟨hsettled, congrArg (Effect.finished index outcome) hattempts⟩

theorem stop_congr (h : s.quiet = t.quiet) : s.stop.quiet = t.stop.quiet := by
  obtain ⟨journal, rfl⟩ := exists_journal h
  unfold stop
  dsimp only
  split <;> rfl

/-- An attestation meets with the same answer. -/
theorem attest_congr (h : s.quiet = t.quiet) (es : Evaluators) (now : Nat) (a : Attestation) :
    hush (s.attest es now a) = hush (t.attest es now a) := by
  obtain ⟨journal, rfl⟩ := exists_journal h
  unfold attest attestBy
  dsimp only
  split <;> rfl

/-! ### Moves and runs -/

/-- A move does the same and means the same, or is out of place in both systems. -/
theorem step?_congr (h : s.quiet = t.quiet) (m : Move) :
    (s.step? m).map hush = (t.step? m).map hush := by
  have hengine := engine_eq h
  cases m with
  | start outage hasRuntime =>
    have hstart := (hush_eq_iff.1 (start_congr h outage hasRuntime)).1
    refine congrArg some (hush_eq_iff.2 ⟨hstart, ?_⟩)
    dsimp only
    rw [hengine, engine_eq hstart]
  | stop => exact congrArg some (hush_eq_iff.2 ⟨stop_congr h, rfl⟩)
  | reload outage =>
    exact congrArg some (hush_eq_iff.2 ⟨(hush_eq_iff.1 (reload_congr h outage)).1, rfl⟩)
  | compile outage resolver config now c =>
    have hcompile := (hush_eq_iff.1 (compile_congr h outage resolver config now c)).1
    exact congrArg some (hush_eq_iff.2 ⟨hcompile, rfl⟩)
  | cleanUp outage composition =>
    have hcleanUp := (hush_eq_iff.1 (cleanUp_congr h outage composition)).1
    exact congrArg some (hush_eq_iff.2 ⟨hcleanUp, rfl⟩)
  | finish outage now index outcome | giveUp outage now index =>
    simp only [step?, hengine]
    split
    · exact congrArg some (finish_congr h ..)
    · rfl
  | change c =>
    obtain ⟨journal, rfl⟩ := exists_journal h
    rfl
  | proceed =>
    obtain ⟨journal, rfl⟩ := exists_journal h
    simp only [step?, Option.map_map]
    rfl
  | arrive | visit | wake | invoke =>
    obtain ⟨journal, rfl⟩ := exists_journal h
    simp only [step?]
    split <;> rfl

/-- A run leads to the same system. -/
theorem run?_congr (h : s.quiet = t.quiet) (ms : List Move) :
    (s.run? ms).map quiet = (t.run? ms).map quiet := by
  induction ms generalizing s t with
  | nil => exact congrArg some h
  | cons m ms ih =>
    have hstep := step?_congr h m
    rw [run?, run?, List.foldlM_cons, List.foldlM_cons]
    cases hs : s.step? m with
    | none =>
      rw [hs] at hstep
      rw [Option.map_eq_none_iff.1 hstep.symm]
    | some x =>
      rw [hs] at hstep
      obtain ⟨y, hy, hxy⟩ := Option.map_eq_some_iff.1 hstep.symm
      rw [hy]
      exact ih (hush_eq_iff.1 hxy.symm).1

end System

end Watchtower
