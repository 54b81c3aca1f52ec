import Mathlib.Tactic.Common
import Watchtower.Proofs.Compilation.Interruption
import Watchtower.Proofs.Compilation.Meaning

/-!
Engines that fall behind their store.

An engine is up to date if a reload would leave its active set as it is. A compilation reloads only
if it has changed something. Where that reload fails, compiling the same input again finds everything
in place and does not reload either, so the engine stays behind, unless some threshold is no number
(`System.recompile_upToDate_iff`).
-/

namespace Watchtower

namespace System

variable {s t u : System} {outage : Outage} {resolver : Resolver} {config : CompilerConfig}
  {now : Moment} {c : Composition} {plan : Plan} {r : Compiled}

/-- A reload would leave the active set as it is. -/
def UpToDate (s : System) : Prop := (s.reload .none).1.engine.active = s.engine.active

theorem upToDate_iff : s.UpToDate ↔ s.engine.active = .ofStore s.store := by
  obtain ⟨t, ht⟩ : ∃ t, s.reload .none = (t, .ok ()) := reload_of_works rfl fun _ _ _ => rfl
  rw [UpToDate, ht, (reload_eq_ok ht).2]
  exact eq_comm

theorem UpToDate.congr (hstore : t.store = s.store) (hactive : t.engine.active = s.engine.active) :
    t.UpToDate ↔ s.UpToDate := by
  rw [upToDate_iff, upToDate_iff, hstore, hactive]

theorem upToDate_of_reloaded (h : s.compile outage resolver config now c = (t, .ok r))
    (hr : r.report.reloaded = true) : t.UpToDate :=
  upToDate_iff.2 (active_of_reloaded h hr)

/-! ### Compilations that have not reloaded -/

theorem engine_reload_of_error {f : StoreFault} (h : s.reload outage = (t, .error f)) :
    t.engine = s.engine := by
  unfold reload adopt at h
  dsimp only at h
  split at h
  · obtain ⟨rfl, -⟩ := Prod.mk.inj h
    rfl
  · cases h

theorem engine_reloadIfChanged {report : CompileReport}
    (h : (s.reloadIfChanged outage report).2.reloaded = false) :
    (s.reloadIfChanged outage report).1.engine = s.engine := by
  unfold reloadIfChanged at h ⊢
  split at h
  · next hchanged =>
    rw [if_pos hchanged]
    split at h
    · cases h
    · next he =>
      have hengine := engine_reload_of_error he
      exact hengine
  · next hchanged => rw [if_neg hchanged]

/-- A compilation that has not reloaded, be it that it changed nothing or that the reload failed, has
left the engine alone. -/
theorem engine_of_not_reloaded (h : s.compile outage resolver config now c = (t, .ok r))
    (hr : r.report.reloaded = false) : t.engine = s.engine := by
  obtain ⟨-, plan, commit, -, -, -, u, hreport, -, hengine, -, hu⟩ := compile_commits h
  rw [hreport] at hr
  rw [hengine, engine_reloadIfChanged hr, hu]

/-! ### Compiling again -/

/-- What needs no write has numbers. -/
theorem Leaves.toward_eq_nil_iff {plan' : Plan} (hl : Leaves s t c plan) (now' : Moment)
    (hd : Plan.Owned c.id plan'.desired)
    (hrules : plan'.desired.map (·.rule) = plan.desired.map (·.rule)) :
    Write.toward t.store c.id plan'.desired now' = [] ↔
      ∀ rule ∈ (plan.desired.map (·.rule)).values, rule.HasNumbers := by
  refine ⟨fun hnil rule hrule => ?_, hl.toward_eq_nil now' hd hrules⟩
  rw [← hrules, Table.values_map, List.mem_map] at hrule
  obtain ⟨w, hw, rfl⟩ := hrule
  have hnone := List.filterMap_eq_nil_iff.1 (List.append_eq_nil_iff.1 hnil).2 w hw
  obtain ⟨v, -, hsame⟩ := Write.of?_eq_none.1 hnone
  exact Rule.hasNumbers_of_same (Bool.and_eq_true_iff.1 hsame).2

/-- A compilation that has not reloaded leaves the engine as it was. Compiling the same input again over
a store that works reloads exactly if some planned threshold is no number, so afterwards the engine
is up to date exactly if it was before or there is such a threshold. -/
theorem recompile_upToDate_iff (hs : s.store.Reachable)
    (h : s.compile outage resolver config now c = (t, .ok r)) :
    (r.report.reloaded = false → t.engine = s.engine) ∧
    ∃ desired, Plan.rulesFor (s.store.deleteByStem (Naming.edgeStem c.id)).watchers resolver config c
        = .ok desired ∧
      ∀ now', ∃ u r', t.compile .none resolver config now' c = (u, .ok r') ∧
        (r'.report.reloaded = true ↔ ∃ rule ∈ desired.values, ¬ rule.HasNumbers) ∧
        (u.UpToDate ↔ t.UpToDate ∨ ∃ rule ∈ desired.values, ¬ rule.HasNumbers) := by
  obtain ⟨hid, plan, hplan, hl⟩ := compile_leaves hs h
  refine ⟨engine_of_not_reloaded h, _, rulesFor_of_make hs.sound hplan, fun now' => ?_⟩
  obtain ⟨plan', hplan', hrules⟩ := make_agrees hs.sound hl.sound hl.rows_outside.symm .none now'
    (fun _ _ => rfl) hplan
  have hd : Plan.Owned c.id plan'.desired := Plan.make_ensures resolver c plan' hplan'
  have hnumbers : (∃ rule ∈ (plan.desired.map (·.rule)).values, ¬ rule.HasNumbers) ↔
      Write.toward t.store c.id plan'.desired now' ≠ [] := by
    rw [ne_eq, hl.toward_eq_nil_iff now' hd hrules]
    push Not
    rfl
  rw [hnumbers]
  by_cases hnil : Write.toward t.store c.id plan'.desired now' = []
  · obtain ⟨u, r', hu, hidle, hstore, hengine⟩ := compile_of_no_writes hid rfl hplan' hnil
    refine ⟨u, r', hu, ?_, ?_⟩
    · simp [hidle.reloaded, hnil]
    · rw [UpToDate.congr hstore (congrArg _ hengine)]
      simp [hnil]
  · obtain ⟨u, r', hu, -, hreport⟩ := compileBy_of_works .ascending hl.sound hid hplan'
    have hreloaded := (hreport hnil).2
    refine ⟨u, r', hu, ?_, ?_⟩
    · simp [hreloaded, hnil]
    · exact iff_of_true (upToDate_of_reloaded hu hreloaded) (.inr hnil)

end System

/-! The sample of an edge and a stale row, taken over by its engine and then compiled while watchers
cannot be listed. -/

namespace Sample

def loaded (threshold : Numeric.Single) : System := ((system threshold).reload .none).1

/-- No reload succeeds. -/
def unread : Outage
  | .list => some (.conflict "list")
  | _ => none

/-- The sample after a compilation whose reload has failed. -/
def behind (threshold : Numeric.Single) : System × Except Fault Compiled :=
  (loaded threshold).compile unread resolver .default default composition

/-- The sample once it has been compiled again. -/
def retried (threshold : Numeric.Single) : System × Except Fault Compiled :=
  (behind threshold).1.compile .none resolver .default default composition

theorem behind_report (threshold : Numeric.Single) {t : System} {r : Compiled}
    (h : behind threshold = (t, .ok r))
    (hreport : (behind threshold).2.toOption.map (fun r => (r.report.changed, r.report.reloaded)) =
      some (true, false)) : r.report.changed = true ∧ r.report.reloaded = false := by
  rw [h] at hreport
  exact Prod.mk.inj (Option.some.inj hreport)

end Sample

namespace System

/-- A threshold that is no number makes the next compilation write, and so it reloads. -/
theorem sample_caught_up : ∃ t r u r', Sample.behind .notANumber = (t, .ok r) ∧
    r.report.changed = true ∧ r.report.reloaded = false ∧
    t.compile .none Sample.resolver .default default Sample.composition = (u, .ok r') ∧
    u.UpToDate := by
  have hs : (Sample.loaded .notANumber).store.Reachable := ⟨_, rfl⟩
  obtain ⟨t, r, h⟩ := exists_of_isOk (x := Sample.behind .notANumber) (by decide +kernel)
  obtain ⟨hchanged, hreloaded⟩ := Sample.behind_report _ h (by decide +kernel)
  obtain ⟨-, desired, hdesired, hagain⟩ := recompile_upToDate_iff hs h
  have hrules : (Plan.rulesFor ((Sample.loaded .notANumber).store.deleteByStem
      (Naming.edgeStem Sample.composition.id)).watchers Sample.resolver .default
        Sample.composition).map (fun d => d.values.all fun rule => rule.same rule) = .ok false := by
    decide +kernel
  rw [hdesired] at hrules
  obtain ⟨rule, hrule, hsame⟩ := List.all_eq_false.1 (Except.ok.inj hrules)
  obtain ⟨u, r', hu, -, hfresh⟩ := hagain default
  exact ⟨t, r, u, r', h, hchanged, hreloaded, hu,
    hfresh.2 (.inr ⟨rule, hrule, fun hn => hsame (Rule.same_self.2 hn)⟩)⟩

/-- Not every engine whose reload has failed is up to date once the same composition has been compiled
over a store that works, even if it was up to date before. -/
theorem not_caught_up : ¬ ∀ (s t u : System) (outage : Outage) (resolver : Resolver)
    (config : CompilerConfig) (now now' : Moment) (c : Composition) (r r' : Compiled),
    s.store.Reachable → s.UpToDate → s.compile outage resolver config now c = (t, .ok r) →
    r.report.changed = true → r.report.reloaded = false →
    t.compile .none resolver config now' c = (u, .ok r') → u.UpToDate := by
  intro hall
  obtain ⟨t, r, h⟩ := exists_of_isOk (x := Sample.behind .one) (by decide +kernel)
  obtain ⟨u, r', h'⟩ := exists_of_isOk (x := Sample.retried .one) (by decide +kernel)
  obtain ⟨hchanged, hreloaded⟩ := Sample.behind_report _ h (by decide +kernel)
  have hkeys : (Sample.retried .one).1.engine.active.watchers.keys ≠
      ((Sample.retried .one).1.reload .none).1.engine.active.watchers.keys := by
    decide +kernel
  have hagain : t.compile .none Sample.resolver .default default Sample.composition = (u, .ok r') := by
    rw [← h', Sample.retried, h]
  have hfresh : u.UpToDate :=
    hall (Sample.loaded .one) t u _ _ _ _ default _ r r' ⟨_, rfl⟩ rfl h hchanged hreloaded hagain
  rw [h'] at hkeys
  exact hkeys (congrArg (fun set => set.watchers.keys) hfresh.symm)

end System

end Watchtower
