import Mathlib.Tactic.Common
import Watchtower.Proofs.Compilation.Conditions
import Watchtower.Proofs.Run.TakeOver

/-!
Compiled edges mean what the graph says.

Between the graph and a match there are the planner, the difference that may keep a stored watcher,
the reload that moves time gates up to cursors, and the matcher. Within its time gate the active
watcher of an edge matches what the edge asks for and nothing else (`System.compiled_edge_means`).
-/

namespace Watchtower

open Traced

/-- Being seeded from a cursor changes the time gate only. -/
theorem ActiveSet.accepts_seeded_iff {es : Evaluators} {default : Numeric.Single} {s : Store}
    {w : Watcher} {a : Attestation} :
    (seeded s w).rule.Accepts es default a ↔ w.rule.Accepts es default a := by
  unfold seeded
  split
  · exact Iff.rfl
  · split
    · exact accepts_gate_iff
    · exact Iff.rfl

/-- An enabled watcher of an edge is active wherever a store is taken over. -/
theorem ActiveSet.get?_of_edge {s : Store} (hs : s.Sound) {c source target : String} {v : Watcher} :
    (ofStore s).watchers.get? (Naming.edgeWatcher c source target) = some v ↔
      ∃ w, s.watchers.get? (Naming.edgeWatcher c source target) = some (.intact w) ∧
        w.rule.enabled = true ∧ seeded s w = v := by
  rw [get?_ofStore hs]
  constructor
  · rintro ⟨w, hw, -, hid, hv⟩
    obtain ⟨hrow, hon⟩ := (Store.mem_list hs).1 hw
    exact ⟨w, hid ▸ hrow, hon, hv⟩
  · rintro ⟨w, hrow, hon, hv⟩
    obtain ⟨hid, -⟩ := hs.watcher hrow
    refine ⟨w, (Store.mem_list hs).2 ⟨hid ▸ hrow, hon⟩, ?_, hid, hv⟩
    -- the id of an edge's watcher is not that of a standalone one
    rw [Bool.eq_false_iff]
    intro hhidden
    obtain ⟨-, glyph, hglyph, -⟩ := hidden_iff.1 hhidden
    exact Naming.edgeWatcher_ne_semanticWatcher c source target glyph (hid.symm.trans hglyph)

namespace System

variable {s s' t : System} {outage : Outage} {resolver : Resolver} {config : CompilerConfig}
  {now : Moment} {c : Composition} {r : Compiled}

/-- An engine has taken over what a compilation left: the compilation itself has reloaded it, or
some reload over the same store has. -/
def TakesOver (s' : System) (r : Compiled) (t : System) : Prop :=
  (r.report.reloaded = true ∧ t = s') ∨
    ∃ (u : System) (outage : Outage), u.store = s'.store ∧ u.reload outage = (t, .ok ())

theorem TakesOver.active (h : s.compile outage resolver config now c = (s', .ok r))
    (ht : TakesOver s' r t) : t.engine.active = .ofStore s'.store := by
  rcases ht with ⟨hr, rfl⟩ | ⟨u, outage', hstore, hreload⟩
  · exact active_of_reloaded h hr
  · rw [(reload_eq_ok hreload).2, hstore]
    rfl

/-- Once a compilation that ended well has been taken over, every edge that asks for something has
an active watcher, which matches, within its time gate, what the edge asks for and nothing else. An
edge that cannot be compiled has none. -/
theorem compiled_edge_means (hs : s.store.Reachable)
    (h : s.compile outage resolver config now c = (s', .ok r)) (ht : TakesOver s' r t) {e : Edge}
    (he : e ∈ c.edges) (hflow : e.isDataFlow = true) :
    (s.store.condition? resolver c e = none →
      t.engine.active.watchers.get? (Naming.edgeWatcher c.id e.source e.target) = none) ∧
    ∀ cond, s.store.condition? resolver c e = some cond → ∃ w,
      t.engine.active.watchers.get? (Naming.edgeWatcher c.id e.source e.target) = some w ∧
      ∀ (es : Evaluators) (a : Attestation), w.rule.filter.admits a.timestamp = true →
        ((es.judge t.engine.config.defaultThreshold w a).matched = true ↔
          cond.Holds es t.engine.config.defaultThreshold a) := by
  obtain ⟨-, plan, hplan, hl⟩ := compile_leaves hs h
  have he' : e ∈ Plan.dataFlow c := List.mem_filter.2 ⟨he, hflow⟩
  have hplanned : plan.desired.get? (Naming.edgeWatcher c.id e.source e.target) =
      (e.known? resolver).bind fun k =>
        (k.condition? s.store (s.store.upstream? resolver c)).map
          (Condition.watcher ⟨c.id, config, now⟩ k) :=
    Plan.make_conditions resolver rfl plan hplan e he'
  have hstem := Naming.startsWith_edgeWatcher c.id e.source e.target
  rw [ht.active h, Store.condition?]
  constructor
  · intro hnone
    rw [Option.eq_none_iff_forall_ne_some]
    intro v hv
    obtain ⟨w, hrow, -, -⟩ := (ActiveSet.get?_of_edge hl.sound).1 hv
    obtain ⟨d, hd⟩ := hl.planned hrow hstem
    rw [hplanned] at hd
    obtain ⟨k, hk, hd⟩ := Option.bind_eq_some_iff.1 hd
    obtain ⟨cond, hcond, -⟩ := Option.map_eq_some_iff.1 hd
    rw [hk, Option.bind_some] at hnone
    cases hnone.symm.trans hcond
  · intro cond hcond
    obtain ⟨k, hk, hcond⟩ := Option.bind_eq_some_iff.1 hcond
    rw [hk, Option.bind_some, hcond, Option.map_some] at hplanned
    obtain ⟨v, hrow, hrule⟩ := hl.left hplanned
    have halike : v.rule.Alike (cond.watcher ⟨c.id, config, now⟩ k).rule := by
      rcases hrule with heq | hsame
      · exact heq ▸ .refl _
      · exact .of_same hsame
    have hon : v.rule.enabled = true := by rw [halike.enabled, Condition.watcher_enabled]
    refine ⟨_, (ActiveSet.get?_of_edge hl.sound).2 ⟨v, hrow, hon, rfl⟩, ?_⟩
    intro es a hgate
    rw [Evaluators.matched_iff, ActiveSet.accepts_seeded_iff, halike.accepts_iff,
      Condition.accepts_watcher_iff]
    exact and_iff_right hgate

end System

/-! A chain of two semantic glyphs and one that runs, its edges listed from the end. -/

namespace Sample

/-- The standalone watchers of two semantic glyphs. -/
def pair : System :=
  { system .one with
    store := [.create (semantic "a" .one), .create (semantic "b" .one)].foldl Store.apply .empty }

def chain : Composition := ⟨"c", [⟨"b", "p", "right", 0⟩, ⟨"a", "b", "right", 1⟩]⟩

end Sample

namespace System

/-- At the end of the chain both predicates have to accept. -/
theorem sample_chain_means : ∃ s' r,
    Sample.pair.compile .none Sample.resolver .default default Sample.chain = (s', .ok r) ∧
    ∃ w, s'.engine.active.watchers.get? "meld-edge/c/b/p" = some w ∧
      ∀ (es : Evaluators) (a : Attestation), w.rule.filter.admits a.timestamp = true →
        ((es.judge s'.engine.config.defaultThreshold w a).matched = true ↔
          (Condition.similar ⟨"b", .one⟩ (some ⟨"a", .one⟩)).Holds es
            s'.engine.config.defaultThreshold a) := by
  have hs : Sample.pair.store.Reachable := ⟨_, rfl⟩
  obtain ⟨s', r, h⟩ := exists_of_isOk (x := Sample.pair.compile .none Sample.resolver .default
    default Sample.chain) (by decide +kernel)
  have hreloaded : (Sample.pair.compile .none Sample.resolver .default default
      Sample.chain).2.toOption.map (fun r => r.report.reloaded) = some true := by
    decide +kernel
  rw [h] at hreloaded
  have hmeans := (compiled_edge_means hs h (t := s') (.inl ⟨Option.some.inj hreloaded, rfl⟩)
    (e := ⟨"b", "p", "right", 0⟩) List.mem_cons_self rfl).2
  exact ⟨s', r, h, hmeans _ (by decide +kernel)⟩

end System

end Watchtower
