import Mathlib.Tactic.Common
import Watchtower.Proofs.Compilation.Meaning

/-!
What the watcher of an edge keeps of its source.

The watcher of an edge is to fire where the source of the edge does. A semantic source lends its
query and its threshold but not its cluster, so the watcher follows the standalone one of the source
exactly if that has no cluster (`System.semantic_source_iff`). A source that produces attestations is
known by an actor, and actors are compared up to the case of letters, so the watcher fires for all
glyphs whose ids differ from the source's in case only (`System.producer_source_iff`).
-/

namespace Watchtower

open Traced

/-! ### The active watcher of an edge -/

namespace System

variable {s s' t : System} {outage : Outage} {resolver : Resolver} {config : CompilerConfig}
  {now : Moment} {c : Composition} {r : Compiled} {e : Edge} {w : Watcher}

/-- The active watcher of an edge is a stored one, started at its cursor, whose rule is that of what
the edge asks for. -/
theorem TakesOver.edge (hs : s.store.Reachable)
    (h : s.compile outage resolver config now c = (s', .ok r)) (ht : TakesOver s' r t)
    (he : e ∈ Plan.dataFlow c)
    (hw : t.engine.active.watchers.get? (Naming.edgeWatcher c.id e.source e.target) = some w) :
    ∃ k cond v, e.known? resolver = some k ∧
      k.condition? s.store (s.store.upstream? resolver c) = some cond ∧
      v.rule.Alike (cond.watcher ⟨c.id, config, now⟩ k).rule ∧
      ActiveSet.seeded s'.store v = w := by
  obtain ⟨-, plan, hplan, hl⟩ := compile_leaves hs h
  rw [ht.active h] at hw
  obtain ⟨v, hrow, -, hseeded⟩ := (ActiveSet.get?_of_edge hl.sound).1 hw
  obtain ⟨d, hd⟩ := hl.planned hrow (Naming.startsWith_edgeWatcher ..)
  obtain ⟨v', hrow', hrule⟩ := hl.left hd
  obtain rfl := Row.intact.inj (Option.some.inj (hrow.symm.trans hrow'))
  rw [Plan.make_conditions resolver rfl plan hplan e he] at hd
  obtain ⟨k, hk, hd⟩ := Option.bind_eq_some_iff.1 hd
  obtain ⟨cond, hcond, rfl⟩ := Option.map_eq_some_iff.1 hd
  exact ⟨k, cond, v, hk, hcond, .of_eq_or_same hrule, hseeded⟩

end System

namespace ActiveSet

variable {es : Evaluators} {default : Numeric.Single} {s : Store} {v w : Watcher} {a : Attestation}

/-- Whatever is alike to a condition's watcher matches what meets the condition, within its time
gate. -/
theorem matched_seeded_iff {x : Plan.Context} {k : KnownEdge} {cond : Condition}
    (h : v.rule.Alike (cond.watcher x k).rule) (hw : seeded s v = w) :
    (es.judge default w a).matched = true ↔
      w.rule.filter.admits a.timestamp = true ∧ cond.Holds es default a := by
  rw [Evaluators.matched_iff, ← hw, accepts_seeded_iff, h.accepts_iff,
    Condition.accepts_watcher_iff]

/-- The time gate of a seeded watcher ends where it ended before. -/
theorem seeded_timeEnd (s : Store) (w : Watcher) :
    (seeded s w).rule.filter.timeEnd = w.rule.filter.timeEnd := by
  unfold seeded
  split
  · rfl
  · split <;> rfl

end ActiveSet

/-- A time gate without an end admits the moment at which it starts. -/
theorem Filter.exists_admits {f : Filter} (h : f.timeEnd = none) :
    ∃ at_, f.admits at_ = true := by
  refine ⟨f.timeStart.getD default, ?_⟩
  unfold admits
  rw [h]
  cases f.timeStart with
  | none => rfl
  | some start => simp [start.not_before_self]

/-! ### Semantic sources -/

/-- Of the primary predicates a fit watcher has one only. -/
theorem Watcher.query_eq_none {w : Watcher} {p : Similarity} (hfit : w.defect? = none)
    (hp : w.rule.similarity = some p) : w.rule.query = none := by
  cases hq : w.rule.query with
  | none => rfl
  | some q =>
    have hmany : 1 < w.rule.primaries.count true := by
      simp only [Rule.primaries, hq, hp, Option.isSome_some]
      cases w.rule.filter.actors.isEmpty <;> decide
    unfold defect? at hfit
    rw [if_pos hmany] at hfit
    split at hfit
    · cases hfit
    · split at hfit <;> cases hfit

/-- An evaluator of similarities that accepts whatever is asked without a cluster. -/
def Evaluators.clusterless : Evaluators where
  query := none
  similarity := some fun _ _ cluster _ => .ok cluster.isNone

theorem Evaluators.acceptsSimilarity_clusterless {default : Numeric.Single} {query : String}
    {threshold : Numeric.Single} {cluster : Option Int} {a : Attestation} :
    clusterless.AcceptsSimilarity default query threshold cluster a ↔ cluster = none := by
  simp [AcceptsSimilarity, clusterless]

/-- The standalone watcher of a glyph is consulted about its similarity predicate. -/
theorem Store.similarityOf_eq_some {s : Store} (hs : s.Sound) {glyph : String} {p : Similarity}
    (h : s.similarityOf glyph = some p) : ∃ v,
      s.get? (Naming.semanticWatcher glyph) = .ok (some v) ∧ v.rule.similarity = some p ∧
      ∀ (es : Evaluators) (default : Numeric.Single) (a : Attestation),
        (es.askPrimary default v a).matched = true ↔
          es.AcceptsSimilarity default p.query p.threshold p.cluster a := by
  obtain ⟨rule, hrule, hp⟩ := Option.bind_eq_some_iff.1 h
  obtain ⟨v, hrow, rfl⟩ := Store.rule?_eq_some.1 hrule
  refine ⟨v, by rw [Store.get?, hrow], hp, fun es default a => ?_⟩
  have hquery := Watcher.query_eq_none (hs.watcher hrow).2 hp
  simp [Evaluators.matched_askPrimary, hquery, hp]

namespace System

variable {s s' t : System} {outage : Outage} {resolver : Resolver} {config : CompilerConfig}
  {now : Moment} {c : Composition} {r : Compiled} {e : Edge} {w : Watcher} {kind : GlyphKind}

/-- The watcher of an edge from a semantic glyph to one that runs matches only where the query and
the threshold of the source accept without a cluster. It matches only where the standalone watcher
of the source does exactly if this has no cluster. -/
theorem semantic_source_iff (hs : s.store.Reachable)
    (h : s.compile outage resolver config now c = (s', .ok r)) (ht : TakesOver s' r t)
    (he : e ∈ c.edges) (hflow : e.isDataFlow = true)
    (hsource : Plan.kind? resolver e.source = some .semantic)
    (htarget : Plan.kind? resolver e.target = some kind) (hruns : kind.isExecutable = true)
    (hw : t.engine.active.watchers.get? (Naming.edgeWatcher c.id e.source e.target) = some w) :
    ∃ v p, s.store.get? (Naming.semanticWatcher e.source) = .ok (some v) ∧
      v.rule.similarity = some p ∧
      (∀ (es : Evaluators) (a : Attestation),
        (es.judge t.engine.config.defaultThreshold w a).matched = true →
          es.AcceptsSimilarity t.engine.config.defaultThreshold p.query p.threshold none a) ∧
      ((∀ (es : Evaluators) (a : Attestation),
        (es.judge t.engine.config.defaultThreshold w a).matched = true →
          (es.askPrimary t.engine.config.defaultThreshold v a).matched = true) ↔
        p.cluster = none) := by
  obtain ⟨k, cond, v', hk, hcond, halike, hseeded⟩ :=
    ht.edge hs h (List.mem_filter.2 ⟨he, hflow⟩) hw
  obtain ⟨-, -, hks, hkt, rfl⟩ := Edge.known?_eq_some.1 hk
  obtain hks := Option.some.inj (hks.symm.trans hsource)
  obtain rfl := Option.some.inj (hkt.symm.trans htarget)
  -- the edge asks for the predicate of its source and for what is upstream
  obtain ⟨p, hp, rfl⟩ : ∃ p, s.store.similarityOf k.edge.source = some p ∧
      cond = .similar p.antecedent (s.store.upstream? resolver c k.edge.source) := by
    have hother : k.isCompound = false := by
      cases ht : k.targetKind <;> simp_all [KnownEdge.isCompound, GlyphKind.isExecutable]
    rw [KnownEdge.condition?, if_neg (by simp [hother]), hruns, if_neg (by simp), hks] at hcond
    obtain ⟨p, hp, hcond⟩ := Option.map_eq_some_iff.1 hcond
    exact ⟨p, hp, hcond.symm⟩
  obtain ⟨v, hget, hvp, hasks⟩ := Store.similarityOf_eq_some hs.sound hp
  have hmatched : ∀ (es : Evaluators) (a : Attestation),
      (es.judge t.engine.config.defaultThreshold w a).matched = true ↔
        w.rule.filter.admits a.timestamp = true ∧
          Condition.Holds es t.engine.config.defaultThreshold a _ :=
    fun _ _ => ActiveSet.matched_seeded_iff halike hseeded
  refine ⟨v, p, hget, hvp, fun es a hm => ((hmatched es a).1 hm).2.1, ?_, fun hnone es a hm => ?_⟩
  · intro hrefines
    -- at the start of its time gate the watcher matches if clusters are all that is refused
    obtain ⟨at_, hadmits⟩ : ∃ at_, w.rule.filter.admits at_ = true := by
      refine Filter.exists_admits ?_
      rw [← hseeded, ActiveSet.seeded_timeEnd, halike.filter]
      rfl
    have hm := (hmatched .clusterless (.bare "" at_)).2 ⟨hadmits,
      Evaluators.acceptsSimilarity_clusterless.2 rfl,
      fun _ _ => Evaluators.acceptsSimilarity_clusterless.2 rfl⟩
    exact Evaluators.acceptsSimilarity_clusterless.1 ((hasks ..).1 (hrefines _ _ hm))
  · rw [hasks, hnone]
    exact ((hmatched es a).1 hm).2.1

end System

/-! A semantic glyph whose standalone watcher has a cluster, in front of one that runs. -/

namespace Sample

/-- The standalone watcher of a semantic glyph, kept to a cluster. -/
def clustered (glyph : String) (cluster : Int) : Watcher :=
  { semantic glyph .one with
    rule := { (semantic glyph .one).rule with similarity := some ⟨glyph, .one, some cluster⟩ } }

def clusteredSystem : System :=
  { system .one with store := [.create (clustered "a" 7)].foldl Store.apply .empty }

/-- The active watcher of an id after a compilation that has reloaded. -/
def active? (x : System × Except Fault Compiled) (id : String) : Option Watcher :=
  x.2.toOption.bind fun r =>
    if r.report.reloaded then x.1.engine.active.watchers.get? id else none

theorem exists_of_active? {x : System × Except Fault Compiled} {id : String} {w : Watcher}
    (h : active? x id = some w) : ∃ s' r, x = (s', .ok r) ∧ r.report.reloaded = true ∧
      s'.engine.active.watchers.get? id = some w := by
  obtain ⟨s', f | r⟩ := x
  · cases h
  · have h : (if r.report.reloaded then s'.engine.active.watchers.get? id else none) = some w := h
    split at h
    · next hreloaded => exact ⟨s', r, rfl, hreloaded, h⟩
    · cases h

end Sample

namespace System

/-- Without a cluster the watcher of the edge matches only where the standalone one does. -/
theorem sample_semantic_source : ∃ s' r w v,
    (Sample.system .one).compile .none Sample.resolver .default default Sample.composition
      = (s', .ok r) ∧
    s'.engine.active.watchers.get? "meld-edge/c/a/p" = some w ∧
    (Sample.system .one).store.get? "se-glyph-a" = .ok (some v) ∧
    ∀ (es : Evaluators) (a : Attestation),
      (es.judge s'.engine.config.defaultThreshold w a).matched = true →
        (es.askPrimary s'.engine.config.defaultThreshold v a).matched = true := by
  have hs : (Sample.system .one).store.Reachable := ⟨_, rfl⟩
  obtain ⟨w, hactive⟩ := Option.isSome_iff_exists.1 (show (Sample.active?
    ((Sample.system .one).compile .none Sample.resolver .default default Sample.composition)
      "meld-edge/c/a/p").isSome = true by decide +kernel)
  obtain ⟨s', r, h, hreloaded, hw⟩ := Sample.exists_of_active? hactive
  have hkind : Plan.kind? Sample.resolver "p" = some .python := rfl
  obtain ⟨v, p, hv, hp, -, hiff⟩ := semantic_source_iff hs h
    (.inl ⟨hreloaded, rfl⟩) (e := ⟨"a", "p", "right", 0⟩) List.mem_cons_self rfl
    rfl hkind rfl hw
  obtain rfl : Sample.semantic "a" .one = v := Option.some.inj (Except.ok.inj hv)
  obtain rfl := Option.some.inj hp
  exact ⟨s', r, w, _, h, hw, hv, hiff.2 rfl⟩

/-- With a cluster it does not: there are attestations that the watcher of the edge matches and the
standalone watcher of the source does not. -/
theorem not_semantic_source : ¬ ∀ (s s' t : System) (outage : Outage) (resolver : Resolver)
    (config : CompilerConfig) (now : Moment) (c : Composition) (r : Compiled) (e : Edge)
    (kind : GlyphKind) (v w : Watcher) (es : Evaluators) (a : Attestation),
    s.store.Reachable → s.compile outage resolver config now c = (s', .ok r) → TakesOver s' r t →
    e ∈ c.edges → e.isDataFlow = true → Plan.kind? resolver e.source = some .semantic →
    Plan.kind? resolver e.target = some kind → kind.isExecutable = true →
    s.store.get? (Naming.semanticWatcher e.source) = .ok (some v) →
    t.engine.active.watchers.get? (Naming.edgeWatcher c.id e.source e.target) = some w →
    (es.judge t.engine.config.defaultThreshold w a).matched = true →
    (es.askPrimary t.engine.config.defaultThreshold v a).matched = true := by
  intro hall
  have hs : Sample.clusteredSystem.store.Reachable := ⟨_, rfl⟩
  have hevaluated : (Sample.active? (Sample.clusteredSystem.compile .none Sample.resolver .default
      default Sample.composition) "meld-edge/c/a/p").map (fun w => (Evaluators.clusterless.judge
        (Sample.clusteredSystem.compile .none Sample.resolver .default default
          Sample.composition).1.engine.config.defaultThreshold w (.bare "x" default)).matched) =
      some true := by decide +kernel
  obtain ⟨w, hactive, hmatched⟩ := Option.map_eq_some_iff.1 hevaluated
  obtain ⟨s', r, h, hreloaded, hw⟩ := Sample.exists_of_active? hactive
  rw [h] at hmatched
  have hfollows := hall _ s' s' .none Sample.resolver .default default Sample.composition r
    ⟨"a", "p", "right", 0⟩ .python (Sample.clustered "a" 7) w .clusterless (.bare "x" default)
    hs h (.inl ⟨hreloaded, rfl⟩) List.mem_cons_self rfl rfl rfl rfl rfl hw hmatched
  cases hfollows

end System

/-! ### Producing sources -/

/-- The stem that all actors of glyphs share does not matter. -/
theorem sameActor_producer (g h : String) :
    sameActor (Naming.producer g) (Naming.producer h) = sameActor g h := by
  rw [sameActor, sameActor, Naming.producer, Naming.producer, String.toList_append,
    String.toList_append, List.map_append, List.map_append]
  rw [Bool.eq_iff_iff, beq_iff_eq, beq_iff_eq, List.append_cancel_left_eq]

namespace System

variable {s s' t : System} {outage : Outage} {resolver : Resolver} {config : CompilerConfig}
  {now : Moment} {c : Composition} {r : Compiled} {e : Edge} {w : Watcher} {kind : GlyphKind}

/-- Of attestations by a single glyph within its time gate, the watcher of an edge from a producing
glyph matches those by glyphs whose ids are that of the source up to the case of letters. -/
theorem producer_source_iff (hs : s.store.Reachable)
    (h : s.compile outage resolver config now c = (s', .ok r)) (ht : TakesOver s' r t)
    (he : e ∈ c.edges) (hflow : e.isDataFlow = true)
    (hsource : Plan.kind? resolver e.source = some kind) (hproduces : kind.isProducer = true)
    (hw : t.engine.active.watchers.get? (Naming.edgeWatcher c.id e.source e.target) = some w)
    (es : Evaluators) {a : Attestation} {glyph : String}
    (hactor : a.actors.keys = [Naming.producer glyph])
    (hgate : w.rule.filter.admits a.timestamp = true) :
    (es.judge t.engine.config.defaultThreshold w a).matched = true ↔
      sameActor glyph e.source = true := by
  obtain ⟨k, cond, v, hk, hcond, halike, hseeded⟩ :=
    ht.edge hs h (List.mem_filter.2 ⟨he, hflow⟩) hw
  obtain ⟨-, -, hks, -, rfl⟩ := Edge.known?_eq_some.1 hk
  obtain rfl := Option.some.inj (hks.symm.trans hsource)
  obtain rfl : cond = .produced k.edge.source := by
    rw [KnownEdge.condition?] at hcond
    cases hkind : k.sourceKind <;>
      simp_all [KnownEdge.isCompound, GlyphKind.isProducer, GlyphKind.isExecutable]
  rw [ActiveSet.matched_seeded_iff halike hseeded, and_iff_right hgate, Condition.Holds, hactor]
  simp [sameActor_producer]

end System

/-! An edge between two glyphs that both run. -/

namespace Sample

def scripts : Resolver := fun _ => .ok (some .python)

def produced : Composition := ⟨"c", [⟨"p", "t", "right", 0⟩]⟩

/-- What a glyph has produced. -/
def product (glyph : String) : Attestation :=
  { Attestation.bare "x" default with actors := .ofList [Naming.producer glyph] }

/-- What a compilation of the edge leaves active is open by default, and matches what `P` has
produced. -/
theorem exists_produced : ∃ s' r w,
    (system .one).compile .none scripts .default default produced = (s', .ok r) ∧
    r.report.reloaded = true ∧ s'.engine.active.watchers.get? "meld-edge/c/p/t" = some w ∧
    w.rule.filter.admits default = true ∧
    ((Evaluators.mk none none).judge s'.engine.config.defaultThreshold w
      (product "P")).matched = true := by
  have hevaluated : (active? ((system .one).compile .none scripts .default default produced)
      "meld-edge/c/p/t").map (fun w => (w.rule.filter.admits default,
        ((Evaluators.mk none none).judge ((system .one).compile .none scripts .default default
          produced).1.engine.config.defaultThreshold w (product "P")).matched)) =
      some (true, true) := by decide +kernel
  obtain ⟨w, hactive, hboth⟩ := Option.map_eq_some_iff.1 hevaluated
  obtain ⟨hadmits, hmatched⟩ := Prod.mk.inj hboth
  obtain ⟨s', r, h, hreloaded, hw⟩ := exists_of_active? hactive
  rw [h] at hmatched
  exact ⟨s', r, w, h, hreloaded, hw, hadmits, hmatched⟩

end Sample

namespace System

/-- The watcher of the edge from `p` matches what `P` has produced, but not what `q` has. -/
theorem sample_producer_source : ∃ s' r w,
    (Sample.system .one).compile .none Sample.scripts .default default Sample.produced
      = (s', .ok r) ∧
    s'.engine.active.watchers.get? "meld-edge/c/p/t" = some w ∧ ∀ es : Evaluators,
      (es.judge s'.engine.config.defaultThreshold w (Sample.product "P")).matched = true ∧
      (es.judge s'.engine.config.defaultThreshold w (Sample.product "q")).matched = false := by
  have hs : (Sample.system .one).store.Reachable := ⟨_, rfl⟩
  obtain ⟨s', r, w, h, hreloaded, hw, hadmits, -⟩ := Sample.exists_produced
  have hkind : Plan.kind? Sample.scripts "p" = some .python := rfl
  have hactor : ∀ glyph, (Sample.product glyph).actors.keys = [Naming.producer glyph] := fun _ => rfl
  have hmatched := fun (es : Evaluators) (glyph : String) =>
    producer_source_iff hs h (.inl ⟨hreloaded, rfl⟩) (e := ⟨"p", "t", "right", 0⟩)
      List.mem_cons_self rfl hkind rfl hw es (hactor glyph) hadmits
  refine ⟨s', r, w, h, hw, fun es => ⟨(hmatched es "P").2 (by decide), ?_⟩⟩
  rw [Bool.eq_false_iff, ne_eq, hmatched]
  decide

/-- Glyphs whose ids differ in the case of a letter are not told apart: the watcher of the edge from
one of them matches what the other one has produced. -/
theorem not_producer_source : ¬ ∀ (s s' t : System) (outage : Outage) (resolver : Resolver)
    (config : CompilerConfig) (now : Moment) (c : Composition) (r : Compiled) (e : Edge)
    (kind : GlyphKind) (w : Watcher) (es : Evaluators) (a : Attestation) (glyph : String),
    s.store.Reachable → s.compile outage resolver config now c = (s', .ok r) → TakesOver s' r t →
    e ∈ c.edges → e.isDataFlow = true → Plan.kind? resolver e.source = some kind →
    kind.isProducer = true → Naming.isSegment glyph = true →
    t.engine.active.watchers.get? (Naming.edgeWatcher c.id e.source e.target) = some w →
    a.actors.keys = [Naming.producer glyph] → w.rule.filter.admits a.timestamp = true →
    ((es.judge t.engine.config.defaultThreshold w a).matched = true ↔ glyph = e.source) := by
  intro hall
  have hs : (Sample.system .one).store.Reachable := ⟨_, rfl⟩
  obtain ⟨s', r, w, h, hreloaded, hw, hadmits, hmatched⟩ := Sample.exists_produced
  have hsame := (hall _ s' s' .none Sample.scripts .default default Sample.produced r
    ⟨"p", "t", "right", 0⟩ .python w ⟨none, none⟩ (Sample.product "P") "P" hs h
    (.inl ⟨hreloaded, rfl⟩) List.mem_cons_self rfl rfl rfl (by decide) hw rfl hadmits).1 hmatched
  exact absurd hsame (by decide)

end System

end Watchtower
