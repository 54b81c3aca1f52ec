import Mathlib.Tactic.Common
import Watchtower.Proofs.Compilation.Freshness
import Watchtower.Proofs.Run.CursorProgress

/-!
Cleaning up undoes compiling.

A composition of which nothing is stored can be compiled and cleaned up after without a trace: both
tables, the active set and the suppressed watchers are what they were (`System.cleanUp_compile`). The
standalone watchers that the compilation hides come back with the reload, which finds no compound
watcher for their glyphs any more.
-/

namespace Watchtower

namespace Store

variable {s : Store} {stem composition : String}

/-! ### Stores without anything of a composition -/

theorem deleteByStem_eq_self (h : s.countByStem stem = 0) : s.deleteByStem stem = s := by
  have hkept : s.watchers.filter (fun key _ => !Naming.startsWith key stem) = s.watchers := by
    refine Table.filter_eq_self fun k r hk => ?_
    rw [Table.size_filter_eq_zero.1 h k r hk, Bool.not_false]
  exact congrArg (fun t => (⟨t, s.cursors⟩ : Store)) hkept

theorem deleteCursors_eq_self (h : s.countCursors composition = 0) :
    s.deleteCursors composition = s := by
  have hkept : s.cursors.filter (fun key _ => !Naming.startsWith key (Cursor.stem composition)) =
      s.cursors := by
    refine Table.filter_eq_self fun k r hk => ?_
    rw [Table.size_filter_eq_zero.1 h k r hk, Bool.not_false]
  exact congrArg (fun t => (⟨s.watchers, t⟩ : Store)) hkept

theorem listByStem_eq_nil (h : s.countByStem stem = 0) : s.listByStem stem = [] := by
  refine List.filterMap_eq_nil_iff.2 fun r hr => ?_
  dsimp only
  rw [Table.size_filter_eq_zero.1 h r.1 r.2 (Table.get?_eq_some_iff.2 hr)]
  cases r.2 <;> rfl

end Store

namespace Write

variable {s : Store} {desired : Table Watcher} {now : Moment} {c : String}

/-- Where nothing is stored yet, everything planned is created. -/
theorem toward_of_nothing (h : s.countByStem (Naming.edgeStem c) = 0) :
    toward s c desired now = desired.values.map .create := by
  have hstale : stale (System.byId []) desired = [] := rfl
  rw [toward, Store.listByStem_eq_nil h, plan, hstale, List.map_nil, List.nil_append,
    ← List.filterMap_eq_map]
  rfl

/-- Then the planned watchers are all there is under the stem. -/
theorem filter_toward_of_nothing (h : s.countByStem (Naming.edgeStem c) = 0)
    (hd : Plan.Owned c desired) :
    ((toward s c desired now).foldl apply s).watchers.filter
        (fun key _ => Naming.startsWith key (Naming.edgeStem c)) = desired.map .intact := by
  have hp : (toward s c desired now).Pairwise fun v w => v.id ≠ w.id := plan_pairwise hd
  refine Table.ext fun k => ?_
  rw [Table.get?_filter, Table.get?_map]
  cases hw : desired.get? k with
  | some w =>
    obtain ⟨rfl, hstem⟩ := hd hw
    have hmem : .create w ∈ toward s c desired now := by
      rw [toward_of_nothing h]
      exact List.mem_map_of_mem (Table.mem_values.2 ⟨_, hw⟩)
    have hrow := get?_foldl_of_mem s hp hmem
    rw [show (Write.create w).id = w.id from rfl] at hrow
    rw [hrow]
    simp [row?, Option.filter, hstem]
  | none =>
    rw [get?_foldl_of_forall_ne]
    · cases hk : s.watchers.get? k with
      | none => rfl
      | some r => simp [Option.filter, Table.size_filter_eq_zero.1 h k r hk]
    · intro u hu e
      rw [toward_of_nothing h] at hu
      obtain ⟨w, hw', rfl⟩ := List.mem_map.1 hu
      obtain ⟨j, hj⟩ := Table.mem_values.1 hw'
      obtain ⟨rfl, -⟩ := hd hj
      rw [show w.id = k from e, hw] at hj
      cases hj

end Write

namespace System

variable {s t : System} {outage : Outage} {resolver : Resolver} {config : CompilerConfig}
  {now : Moment} {c : Composition} {r : Compiled}

/-- Without the watchers that a first compilation creates the store is what it was. -/
theorem deleteByStem_compile (hnew : s.store.countByStem (Naming.edgeStem c.id) = 0)
    (h : s.compile outage resolver config now c = (t, .ok r)) :
    t.store.deleteByStem (Naming.edgeStem c.id) = s.store := by
  obtain ⟨-, plan, hplan, hstore, -⟩ := compile_eq_ok h
  have hd : Plan.Owned c.id plan.desired := Plan.make_ensures resolver c plan hplan
  have hrows : (t.store.deleteByStem (Naming.edgeStem c.id)).watchers = s.store.watchers := by
    rw [Store.rows_outside_eq (s := s.store), Store.deleteByStem_eq_self hnew]
    intro k hk
    rw [hstore]
    refine Write.get?_foldl_of_forall_ne s.store fun w hw e => ?_
    have hstem := Write.startsWith_of_mem_plan hd (fun hv => by
      rw [Store.listByStem_eq_nil hnew] at hv
      cases hv) hw
    rw [e, hk] at hstem
    cases hstem
  have hcursors : t.store.cursors = s.store.cursors := by rw [hstore, Write.cursors_foldl]
  exact congrArg₂ Store.mk hrows hcursors

/-- A first compilation creates all the watchers that are under its stem afterwards. -/
theorem countByStem_compile (hnew : s.store.countByStem (Naming.edgeStem c.id) = 0)
    (h : s.compile outage resolver config now c = (t, .ok r)) :
    t.store.countByStem (Naming.edgeStem c.id) = r.report.created := by
  obtain ⟨-, plan, commit, hplan, hcommit, hfault, u, hreport, hstore, -, hu, -⟩ :=
    compile_commits h
  have hd : Plan.Owned c.id plan.desired := Plan.make_ensures resolver c plan hplan
  have hcreates : Write.toward s.store c.id plan.desired now = plan.desired.values.map .create :=
    Write.toward_of_nothing hnew
  have hworks : ∀ w ∈ Write.toward s.store c.id plan.desired now,
      (outage w.call).or w.fault? = none := Commit.works_of_run _ rfl (hcommit ▸ hfault)
  obtain ⟨-, hwritten, hperformed⟩ := Commit.run_of_works s.store _ hworks
    (Write.plan_pairwise hd) (by simp [hcreates, Write.changes])
  rw [← hcommit] at hwritten hperformed
  have hcreated : commit.created = plan.desired.size := by
    rw [Commit.created, hperformed, hcreates, List.countP_map, ← Table.length_values]
    exact List.countP_eq_length.2 fun _ _ => rfl
  have hreported : r.report.created = commit.created := by
    rw [hreport]
    rcases u.reloadIfChanged_report outage _ with he | he <;> rw [he] <;> rfl
  rw [hstore, reloadIfChanged_store, hu, hwritten, Store.countByStem,
    Write.filter_toward_of_nothing hnew hd, Table.size_map, hreported, hcreated]

/-- A clean-up over a store that works reloads. -/
theorem cleanUp_reloaded (s : System) (composition : String) :
    (s.cleanUp .none composition).2.reloaded = true := by
  rw [cleanUp]
  unfold reloadAfterCleanUp
  dsimp only
  obtain ⟨t, ht⟩ : ∃ t, ((s.removeWatchers .none composition).1.removeCursors .none
      composition).1.reload .none = (t, .ok ()) := reload_of_works rfl fun _ _ _ => rfl
  rw [ht]

/-- Compiling a composition of which nothing is stored and cleaning up after it, over a store that
works, leaves both tables and the engine's set as they were, if the set was that of the store before:
every active watcher has its fields and its time gate back, and the suppressed watchers are the same.
As many watchers are removed as were created, and no cursor. -/
theorem cleanUp_compile (hfresh : s.UpToDate)
    (hwatchers : s.store.countByStem (Naming.edgeStem c.id) = 0)
    (hcursors : s.store.countCursors c.id = 0)
    (h : s.compile outage resolver config now c = (t, .ok r)) :
    (t.cleanUp .none c.id).1.store = s.store ∧
      (t.cleanUp .none c.id).1.engine.active = s.engine.active ∧
      (t.cleanUp .none c.id).2 = ⟨r.report.created, 0, true⟩ := by
  obtain ⟨hid, -⟩ := compile_eq_ok h
  have hback := deleteByStem_compile hwatchers h
  have hkept : t.store.cursors = s.store.cursors := by
    rw [← hback]
    rfl
  obtain ⟨hstore, hremoved, hnone⟩ :=
    t.cleanUp_of_removals .none hid rfl rfl
  rw [hback, Store.deleteCursors_eq_self hcursors] at hstore
  refine ⟨hstore, ?_, ?_⟩
  · rw [active_of_cleanUp (t.cleanUp_reloaded c.id), hstore, upToDate_iff.1 hfresh]
  · rw [countByStem_compile hwatchers h] at hremoved
    rw [Store.countCursors, hkept, ← Store.countCursors, hcursors] at hnone
    have hreloaded := t.cleanUp_reloaded c.id
    cases hreport : (t.cleanUp .none c.id).2 with
    | mk watchers cursors reloaded =>
      rw [hreport] at hremoved hnone hreloaded
      exact congr (congrArg₂ CleanupReport.mk hremoved hnone) hreloaded

end System

/-! Two semantic glyphs whose standalone watchers have been taken over, and an edge between them. -/

namespace Sample

def pairLoaded : System := (pair.reload .none).1

def link : Composition := ⟨"c", [⟨"a", "b", "right", 0⟩]⟩

end Sample

namespace System

/-- The compilation of the sample hides the standalone watcher of the edge's target, and cleaning up
brings it back. -/
theorem sample_undone : ∃ t r,
    Sample.pairLoaded.compile .none Sample.resolver .default default Sample.link = (t, .ok r) ∧
    t.engine.active.suppressed.toList = ["se-glyph-b"] ∧
    (t.cleanUp .none "c").1.store = Sample.pairLoaded.store ∧
    (t.cleanUp .none "c").1.engine.active = Sample.pairLoaded.engine.active ∧
    "se-glyph-b" ∈ (t.cleanUp .none "c").1.engine.active.watchers.keys := by
  obtain ⟨t, r, h⟩ := exists_of_isOk (x := Sample.pairLoaded.compile .none Sample.resolver .default
    default Sample.link) (by decide +kernel)
  have hhidden : (Sample.pairLoaded.compile .none Sample.resolver .default default
      Sample.link).1.engine.active.suppressed.toList = ["se-glyph-b"] := by
    decide +kernel
  have hthere : "se-glyph-b" ∈ Sample.pairLoaded.engine.active.watchers.keys := by decide +kernel
  have hfresh : Sample.pairLoaded.UpToDate := rfl
  obtain ⟨hstore, hactive, -⟩ := cleanUp_compile hfresh (by decide +kernel) (by decide +kernel) h
  rw [h] at hhidden
  exact ⟨t, r, h, hhidden, hstore, hactive, hactive ▸ hthere⟩

end System

end Watchtower
