import Mathlib.Data.List.Dedup
import Mathlib.Tactic.Common
import Watchtower.Proofs.Compilation.EdgeOrder

/-!
Compiling as far as possible, and saying exactly what was done.

What becomes of an edge is decided by its own glyphs and by what is upstream of its source
(`Store.outcome`): it is compiled, it is skipped for a reason, or its target is nothing to be run.
An edge that cannot be compiled therefore stands in the way of no other edge. Over a store that works
a compilation ends well, and its report lists the skipped edges one by one and counts the rows that
were written, left alone and removed (`System.compile_best_effort`).
-/

namespace Watchtower

open Traced

/-! ### What becomes of edges -/

/-- What becomes of an edge. -/
inductive EdgeOutcome where
  /-- There is a watcher for what the edge asks for. -/
  | compiled (cond : Condition)
  /-- The report names the edge. -/
  | skipped (reason : SkipReason)
  /-- The report says nothing. -/
  | notActionable
  deriving DecidableEq

namespace KnownEdge

/-- Why the edge is skipped, if it is. -/
def obstacle? (s : Store) (k : KnownEdge) : Option SkipReason :=
  if k.isCompound then
    if s.similarityOf k.edge.source = none then
      some (.missingWatcher (Naming.semanticWatcher k.edge.source))
    else if s.similarityOf k.edge.target = none then
      some (.missingWatcher (Naming.semanticWatcher k.edge.target))
    else none
  else if k.targetKind = .semantic then some (.unsupportedTarget k.targetKind.tag)
  else if !k.targetKind.isExecutable then none
  else match k.sourceKind with
    | .query =>
      if s.queryOf k.edge.source = none then
        some (.missingWatcher (Naming.queryWatcher k.edge.source))
      else none
    | .semantic =>
      if s.similarityOf k.edge.source = none then
        some (.missingWatcher (Naming.semanticWatcher k.edge.source))
      else none
    | .python | .prompt => none
    | kind => some (.unsupportedSource kind.tag)

/-- What becomes of the edge, where it is known what is upstream of glyphs. -/
def outcome (s : Store) (upstream : String → Option Antecedent) (k : KnownEdge) : EdgeOutcome :=
  match k.condition? s upstream, k.obstacle? s with
  | some cond, _ => .compiled cond
  | none, some reason => .skipped reason
  | none, none => .notActionable

/-- The ids of the standalone watchers that are looked up for the edge. -/
def consulted (s : Store) (k : KnownEdge) : List String :=
  if k.isCompound then
    Naming.semanticWatcher k.edge.source ::
      if (s.similarityOf k.edge.source).isSome then [Naming.semanticWatcher k.edge.target] else []
  else if !k.targetKind.isExecutable then []
  else match k.sourceKind with
    | .query => [Naming.queryWatcher k.edge.source]
    | .semantic => [Naming.semanticWatcher k.edge.source]
    | _ => []

end KnownEdge

namespace Store

variable (s : Store) (resolver : Resolver) (c : Composition)

/-- What becomes of an edge of a composition. -/
def outcome (e : Edge) : EdgeOutcome :=
  match Plan.examine resolver e with
  | .ok k => k.outcome s (s.upstream? resolver c)
  | .error reason => .skipped reason

/-- The entry of the report for an edge, if the edge is skipped. -/
def skippedEdge? (e : Edge) : Option SkippedEdge :=
  match s.outcome resolver c e with
  | .skipped reason => some ⟨e.source, e.target, reason⟩
  | _ => none

/-- The ends of the edges that are compiled, repeats included. -/
def compiledPairs : List (String × String) :=
  (Plan.dataFlow c).filterMap fun e => match s.outcome resolver c e with
    | .compiled _ => some (e.source, e.target)
    | _ => none

/-- The ids of the watchers of the edges that are compiled. -/
def compiledIds : List String :=
  (s.compiledPairs resolver c).map fun p => Naming.edgeWatcher c.id p.1 p.2

/-- Every row that is looked up for an edge of the composition can be decoded. -/
def Decodes : Prop :=
  ∀ k ∈ c.known resolver, ∀ id ∈ k.consulted s, s.watchers.get? id ≠ some .damaged

instance : Decidable (s.Decodes resolver c) :=
  inferInstanceAs (Decidable (∀ k ∈ c.known resolver, ∀ id ∈ k.consulted s, _))

end Store

namespace KnownEdge

variable {s : Store} {upstream : String → Option Antecedent} {k : KnownEdge}

/-- An edge asks for something exactly if nothing stands in its way and it is one between semantic
glyphs or to a glyph that is to be run. -/
theorem isSome_condition? : (k.condition? s upstream).isSome =
    ((k.obstacle? s).isNone && (k.isCompound || k.targetKind.isExecutable)) := by
  unfold condition? obstacle?
  cases hc : k.isCompound with
  | true =>
    cases hs : s.similarityOf k.edge.source with
    | none => simp
    | some source => cases ht : s.similarityOf k.edge.target <;> simp
  | false =>
    cases hx : k.targetKind.isExecutable with
    | false => simp
    | true =>
      have ht : k.targetKind ≠ .semantic := by
        intro ht
        rw [ht] at hx
        cases hx
      -- what is left is decided by the source
      simp only [Bool.not_true, Bool.false_eq_true, if_false, ht]
      cases k.sourceKind with
      | query => cases s.queryOf k.edge.source <;> simp
      | semantic => cases s.similarityOf k.edge.source <;> simp
      | python | prompt => rfl
      | ingest | note | document | subCanvas | attestationDisplay | other => rfl

/-- Nothing stands in the way of an edge that is compiled. -/
theorem obstacle?_of_condition? {cond : Condition} (h : k.condition? s upstream = some cond) :
    k.obstacle? s = none := by
  have hsome : (k.condition? s upstream).isSome = _ := isSome_condition?
  rw [h, Option.isSome_some, eq_comm, Bool.and_eq_true, Option.isNone_iff_eq_none] at hsome
  exact hsome.1

/-- The edges of which the report says nothing are those to a glyph that is neither semantic nor to
be run. -/
theorem outcome_eq_notActionable : k.outcome s upstream = .notActionable ↔
    k.targetKind.isExecutable = false ∧ k.targetKind ≠ .semantic := by
  have hsome : (k.condition? s upstream).isSome = _ := isSome_condition?
  constructor
  · intro h
    obtain ⟨hcond, hnone⟩ : k.condition? s upstream = none ∧ k.obstacle? s = none := by
      unfold outcome at h
      split at h
      · cases h
      · cases h
      · next hcond hnone => exact ⟨hcond, hnone⟩
    rw [hcond, hnone] at hsome
    obtain ⟨hc, hx⟩ : k.isCompound = false ∧ k.targetKind.isExecutable = false := by
      simpa using hsome
    refine ⟨hx, fun ht => ?_⟩
    simp [obstacle?, hc, ht] at hnone
  · rintro ⟨hx, ht⟩
    have hc : k.isCompound = false := by
      simp [isCompound, ht]
    simp [outcome, condition?, obstacle?, hc, hx, ht]

theorem outcome_eq_compiled {cond : Condition} :
    k.outcome s upstream = .compiled cond ↔ k.condition? s upstream = some cond := by
  unfold outcome
  split
  · next h => simp [h]
  · next h _ => simp [h]
  · next h _ => simp [h]

theorem outcome_eq_skipped {reason : SkipReason} :
    k.outcome s upstream = .skipped reason ↔ k.obstacle? s = some reason := by
  unfold outcome
  split
  · next h => simp [obstacle?_of_condition? h]
  · next h => simp [h]
  · next h => simp [h]

end KnownEdge

/-- An edge that cannot be examined is not known. -/
theorem Plan.known?_eq_none {resolver : Resolver} {e : Edge} {reason : SkipReason}
    (h : Plan.examine resolver e = .error reason) : e.known? resolver = none := by
  rw [← Plan.examine_toOption, h]
  rfl

namespace Store

variable {s : Store} {resolver : Resolver} {c : Composition} {e : Edge}

theorem outcome_eq_compiled {cond : Condition} :
    s.outcome resolver c e = .compiled cond ↔ s.condition? resolver c e = some cond := by
  unfold outcome condition?
  cases h : Plan.examine resolver e with
  | ok k => rw [Plan.examine_eq_ok.1 h, Option.bind_some, KnownEdge.outcome_eq_compiled]
  | error reason => simp [Plan.known?_eq_none h]

theorem outcome_eq_notActionable : s.outcome resolver c e = .notActionable ↔
    ∃ k, e.known? resolver = some k ∧ k.targetKind.isExecutable = false ∧
      k.targetKind ≠ .semantic := by
  unfold outcome
  cases h : Plan.examine resolver e with
  | ok k => simp [Plan.examine_eq_ok.1 h, KnownEdge.outcome_eq_notActionable]
  | error reason => simp [Plan.known?_eq_none h]

theorem mem_compiledPairs {p : String × String} : p ∈ s.compiledPairs resolver c ↔
    ∃ e ∈ Plan.dataFlow c, ∃ cond, s.condition? resolver c e = some cond ∧
      (e.source, e.target) = p := by
  simp only [compiledPairs, List.mem_filterMap, ← outcome_eq_compiled]
  refine exists_congr fun e => and_congr_right fun _ => ?_
  cases s.outcome resolver c e <;> simp

theorem mem_compiledIds {id : String} : id ∈ s.compiledIds resolver c ↔
    ∃ e ∈ Plan.dataFlow c, ∃ cond, s.condition? resolver c e = some cond ∧
      Naming.edgeWatcher c.id e.source e.target = id := by
  simp only [compiledIds, List.mem_map, mem_compiledPairs]
  constructor
  · rintro ⟨_, ⟨e, he, cond, hcond, rfl⟩, rfl⟩
    exact ⟨e, he, cond, hcond, rfl⟩
  · rintro ⟨e, he, cond, hcond, rfl⟩
    exact ⟨_, ⟨e, he, cond, hcond, rfl⟩, rfl⟩

/-! ### One edge and the others -/

/-- Taking an edge out changes what is upstream of a glyph only if the edge itself provides an
antecedent for it. -/
theorem upstream?_of_removed {before after : List Edge} (hc : c.edges = before ++ e :: after)
    {glyph : String}
    (h : s.upstream? resolver { c with edges := before ++ after } glyph ≠
      s.upstream? resolver c glyph) :
    e.isDataFlow = true ∧ ∃ k, e.known? resolver = some k ∧ k.antecedent? s glyph ≠ none := by
  unfold upstream? Composition.known Plan.dataFlow at h
  rw [hc] at h
  simp only [List.filter_append, List.filter_cons] at h
  cases hflow : e.isDataFlow with
  | false => simp [hflow] at h
  | true =>
    cases hk : e.known? resolver with
    | none => simp [hflow, hk] at h
    | some k =>
      refine ⟨rfl, k, rfl, fun hnone => h ?_⟩
      simp [hflow, hk, hnone]

/-- Taking an edge out changes what becomes of another one only if the edge itself is compiled to a
compound watcher that covers the source of the other. -/
theorem outcome_of_removed {before after : List Edge} (hc : c.edges = before ++ e :: after)
    {e' : Edge}
    (h : s.outcome resolver { c with edges := before ++ after } e' ≠ s.outcome resolver c e') :
    e.isDataFlow = true ∧ e.target = e'.source ∧
      ∃ target source, s.outcome resolver c e = .compiled (.both target source) := by
  have hup : s.upstream? resolver { c with edges := before ++ after } e'.source ≠
      s.upstream? resolver c e'.source := by
    intro hsame
    refine h ?_
    unfold outcome
    cases hexamined : Plan.examine resolver e' with
    | error reason => rfl
    | ok k =>
      obtain rfl := (Edge.known?_eq_some.1 (Plan.examine_eq_ok.1 hexamined)).2.2.2.2
      dsimp only
      unfold KnownEdge.outcome
      rcases k.condition?_cases s with ⟨source, hsource⟩ | hfixed
      · rw [hsource, hsource, hsame]
      · rw [(hfixed (s.upstream? resolver c)).1]
  obtain ⟨hflow, k, hk, hprovides⟩ := upstream?_of_removed hc hup
  obtain rfl := (Edge.known?_eq_some.1 hk).2.2.2.2
  unfold KnownEdge.antecedent? at hprovides
  split at hprovides
  · next hcompound =>
    obtain ⟨hcompound, htarget⟩ := hcompound
    refine ⟨hflow, htarget, ?_⟩
    cases hs : s.similarityOf k.edge.source with
    | none => simp [hs] at hprovides
    | some source =>
      cases ht : s.similarityOf k.edge.target with
      | none => simp [hs, ht] at hprovides
      | some target =>
        refine ⟨target, source.antecedent, outcome_eq_compiled.2 ?_⟩
        rw [condition?, hk, Option.bind_some, KnownEdge.condition?, if_pos hcompound, hs, ht]
        rfl
  · exact absurd rfl hprovides

end Store

/-! ### The skipped edges of a plan -/

/-- The reason why an edge is skipped, if it is. -/
def Resolution.reason? : Resolution → Option SkipReason
  | .skipped reason => some reason
  | _ => none

/-- The entry of the report for a known edge, if it is skipped. -/
def KnownEdge.skippedEdge? (s : Store) (k : KnownEdge) : Option SkippedEdge :=
  (k.obstacle? s).map fun reason => ⟨k.edge.source, k.edge.target, reason⟩

namespace Plan

variable {a : Access} {x : Context}

theorem resolveCompound_obstacle {e : KnownEdge} (he : e.isCompound = true) :
    Ensures (fun r => r.reason? = e.obstacle? a.store) (resolveCompound a x e) := by
  unfold KnownEdge.obstacle?
  rw [if_pos he]
  refine ensures_bind (standaloneSimilarity_ensures _) ?_
  rintro source hsource
  rw [← hsource]
  cases source with
  | none => exact ensures_pure rfl
  | some source =>
    refine ensures_bind (standaloneSimilarity_ensures _) ?_
    rintro target htarget
    rw [← htarget]
    cases target with
    | none => exact ensures_pure rfl
    | some target => exact ensures_pure rfl

theorem resolveOther_obstacle {e : KnownEdge} (he : e.isCompound = false) (compounds : Compounds) :
    Ensures (fun r => r.reason? = e.obstacle? a.store) (resolveOther a x compounds e) := by
  unfold resolveOther KnownEdge.obstacle?
  rw [if_neg (c := e.isCompound = true) (by simp [he])]
  split
  · exact ensures_pure rfl
  split
  · exact ensures_pure rfl
  cases e.sourceKind with
  | query =>
    refine ensures_bind (standaloneQuery_ensures _) ?_
    rintro query hquery
    rw [← hquery]
    cases query <;> exact ensures_pure rfl
  | semantic =>
    refine ensures_bind (standaloneSimilarity_ensures _) ?_
    rintro similarity hsimilarity
    rw [← hsimilarity]
    cases similarity with
    | none => exact ensures_pure rfl
    | some similarity => exact ensures_bind (ensures_true _) fun _ _ => ensures_pure rfl
  | python | prompt => exact ensures_pure rfl
  | ingest | note | document | subCanvas | attestationDisplay | other => exact ensures_pure rfl

theorem add_skipped (o : Outcome) (e : KnownEdge) (r : Resolution) :
    Ensures (fun o' => o'.skipped = o.skipped ++
        (r.reason?.map fun reason => ⟨e.edge.source, e.edge.target, reason⟩).toList)
      (o.add e r) := by
  cases r with
  | compiled w => exact ensures_pure (List.append_nil _).symm
  | skipped reason =>
    intro o' ho'
    obtain rfl := Except.ok.inj ho'
    rfl
  | notActionable =>
    refine ensures_bind (ensures_true _) fun _ _ => ?_
    exact ensures_pure (List.append_nil _).symm

/-- A pass appends the entries of its edges. -/
theorem foldlM_skipped {s : Store} {f : Outcome → KnownEdge → Traced Outcome} (es : List KnownEdge)
    (hf : ∀ e ∈ es, ∀ o, Ensures (fun o' => o'.skipped = o.skipped ++ (e.skippedEdge? s).toList)
      (f o e)) (o : Outcome) :
    Ensures (fun o' => o'.skipped = o.skipped ++ es.filterMap (KnownEdge.skippedEdge? s))
      (es.foldlM f o) := by
  induction es generalizing o with
  | nil => exact ensures_pure (List.append_nil _).symm
  | cons e es ih =>
    rw [List.foldlM_cons]
    refine ensures_bind (hf e List.mem_cons_self o) fun o₁ ho₁ => ?_
    intro o' ho'
    rw [ih (fun e he => hf e (List.mem_cons_of_mem _ he)) o₁ o' ho', ho₁, List.filterMap_cons]
    cases e.skippedEdge? s <;> simp

/-- The plan skips the edges that are not known, then those between semantic glyphs, then the
others. -/
theorem make_skipped (resolver : Resolver) (c : Composition) :
    Ensures (fun p => p.skipped = (dataFlow c).filterMap (Edge.unknown? resolver) ++
        ((c.known resolver).filter KnownEdge.isCompound).filterMap
          (KnownEdge.skippedEdge? a.store) ++
        ((c.known resolver).filter fun e => !e.isCompound).filterMap
          (KnownEdge.skippedEdge? a.store))
      (make a resolver x c) := by
  refine ensures_bind (ensures_true _) fun _ _ =>
    ensures_bind (ensures_of_result (result_examineAll _ _)) ?_
  rintro _ rfl
  dsimp only
  rw [← Composition.known, List.partition_eq_filter_filter]
  dsimp only
  refine ensures_bind (foldlM_skipped (s := a.store) _ (fun e he o => ?_) _) fun o₁ ho₁ => ?_
  · exact ensures_bind (resolveCompound_obstacle (List.mem_filter.1 he).2) fun r hr => by
      rw [KnownEdge.skippedEdge?, ← hr]
      exact add_skipped o e r
  refine ensures_bind (foldlM_skipped (s := a.store) _ (fun e he o => ?_) _) fun o₂ ho₂ => ?_
  · have hc : e.isCompound = false := by simpa using (List.mem_filter.1 he).2
    exact ensures_bind (resolveOther_obstacle hc _) fun r hr => by
      rw [KnownEdge.skippedEdge?, ← hr]
      exact add_skipped o e r
  · exact ensures_pure (by rw [ho₂, ho₁]; rfl)

end Plan

namespace Store

variable {s : Store} {resolver : Resolver} {c : Composition}

theorem skippedEdge?_eq (s : Store) (resolver : Resolver) (c : Composition) (e : Edge) :
    s.skippedEdge? resolver c e =
      (e.unknown? resolver).or ((e.known? resolver).bind (KnownEdge.skippedEdge? s)) := by
  unfold skippedEdge? outcome Edge.unknown?
  cases h : Plan.examine resolver e with
  | error reason =>
    rfl
  | ok k =>
    have hk := Plan.examine_eq_ok.1 h
    obtain rfl := (Edge.known?_eq_some.1 hk).2.2.2.2
    rw [hk, Option.none_or, Option.bind_some, KnownEdge.skippedEdge?]
    dsimp only
    cases hreason : k.outcome s (s.upstream? resolver c) with
    | skipped reason => rw [KnownEdge.outcome_eq_skipped.1 hreason]; rfl
    | compiled cond =>
      rw [KnownEdge.obstacle?_of_condition? (KnownEdge.outcome_eq_compiled.1 hreason)]
      rfl
    | notActionable =>
      cases hnone : k.obstacle? s with
      | none => rfl
      | some reason =>
        rw [KnownEdge.outcome_eq_skipped.2 hnone] at hreason
        cases hreason

/-- Whatever the order of the passes, every edge that is skipped has its entry. -/
theorem filterMap_skippedEdge?_perm (es : List Edge) :
    (es.filterMap (s.skippedEdge? resolver c)).Perm
      (es.filterMap (Edge.unknown? resolver) ++
        (es.filterMap (Edge.known? resolver)).filterMap (KnownEdge.skippedEdge? s)) := by
  induction es with
  | nil => exact .nil
  | cons e es ih =>
    rw [List.filterMap_cons, List.filterMap_cons, List.filterMap_cons, skippedEdge?_eq]
    cases h : e.unknown? resolver with
    | some entry =>
      have hnone : e.known? resolver = none := by
        unfold Edge.unknown? at h
        split at h
        · cases h
        · next hreason => exact Plan.known?_eq_none hreason
      rw [hnone, Option.some_or]
      exact ih.cons entry
    | none =>
      cases hk : e.known? resolver with
      | none => exact ih
      | some k =>
        rw [Option.none_or, Option.bind_some, List.filterMap_cons]
        cases k.skippedEdge? s with
        | none => exact ih
        | some entry => exact (ih.cons entry).trans List.perm_middle.symm

end Store

/-! ### Counting -/

namespace Write

variable {s : Store} {existing desired : Table Watcher} {now : Moment} {c : String}

/-- Of a planned watcher at most one write is made, and this is no removal. -/
theorem of?_ne_remove {w : Watcher} {u : Write} (h : of? existing now w = some u) (id : String) :
    u ≠ .remove id := by
  rintro rfl
  obtain ⟨v, hrow, -⟩ := of?_spec h
  cases hrow

/-- A commit that has performed a difference counts as removed what was stale, and as written what
planned watchers needed. -/
theorem counts_of_performed {commit : Commit}
    (h : commit.performed = plan existing desired now) :
    commit.deleted = (stale existing desired).length ∧
      commit.created + commit.replaced + desired.values.countP (fun w =>
        (of? existing now w).isNone) = desired.size := by
  have hdeleted : commit.deleted = (stale existing desired).length := by
    rw [Commit.deleted, h, plan, List.countP_append, List.countP_eq_length.2, List.countP_eq_zero.2,
      List.length_map, Nat.add_zero]
    · intro u hu
      obtain ⟨w, -, hof⟩ := List.mem_filterMap.1 hu
      cases u with
      | remove id => exact absurd rfl (of?_ne_remove hof id)
      | replace v | create v => simp
    · intro u hu
      obtain ⟨id, -, rfl⟩ := List.mem_map.1 hu
      rfl
  have hwritten : (desired.values.filterMap (of? existing now)).length +
      desired.values.countP (fun w => (of? existing now w).isNone) = desired.size := by
    rw [← Table.length_values, List.length_filterMap_eq_countP,
      List.length_eq_countP_add_countP (fun w => (of? existing now w).isSome)]
    simp only [Bool.not_eq_true, Option.isSome_eq_false_iff, Bool.decide_eq_true]
  have htouched := commit.touched_eq
  rw [h, plan, List.length_append, List.length_map] at htouched
  exact ⟨hdeleted, by omega⟩

/-- What is stale is what is listed under the stem and not planned. -/
theorem length_stale (hs : s.Sound) (stem : String) (desired : Table Watcher) :
    (stale (System.byId (s.listByStem stem)) desired).length =
      (s.listByStem stem).countP fun v => !desired.contains v.id := by
  have hlt : ((s.listByStem stem).map fun w => (w.id, w)).Pairwise fun r t => r.1 < t.1 := by
    rw [List.pairwise_map]
    exact List.pairwise_map.1 (Store.scan_ordered hs _)
  rw [stale, System.byId, Table.keys_ofList hlt, List.map_map, List.countP_eq_length_filter,
    List.filter_map, List.length_map]
  rfl

end Write

namespace Plan

variable {a : Access} {x : Context} {resolver : Resolver} {c : Composition} {plan : Plan}

/-- Planned are the watchers of the edges that are compiled. -/
theorem contains_iff (hx : x.composition = c.id)
    (hplan : (make a resolver x c).result = .ok plan) {id : String} :
    plan.desired.contains id = true ↔ id ∈ a.store.compiledIds resolver c := by
  rw [Store.mem_compiledIds, Table.contains, Option.isSome_iff_exists]
  constructor
  · rintro ⟨w, hw⟩
    obtain ⟨e, he, hid⟩ : ∃ e ∈ dataFlow c, id = Naming.edgeWatcher c.id e.source e.target := by
      by_contra hnone
      rw [make_elsewhere resolver hx plan hplan id fun e he heq => hnone ⟨e, he, heq⟩] at hw
      cases hw
    rw [hid, make_conditions resolver hx plan hplan e he] at hw
    obtain ⟨k, hk, hw⟩ := Option.bind_eq_some_iff.1 hw
    obtain ⟨cond, hcond, -⟩ := Option.map_eq_some_iff.1 hw
    exact ⟨e, he, cond, by rw [Store.condition?, hk]; exact hcond, hid.symm⟩
  · rintro ⟨e, he, cond, hcond, rfl⟩
    obtain ⟨k, hk, hcond⟩ := Option.bind_eq_some_iff.1 hcond
    exact ⟨cond.watcher x k, by
      rw [make_conditions resolver hx plan hplan e he, hk, Option.bind_some, hcond]
      rfl⟩

/-- There is one planned watcher for each pair of glyphs with an edge that is compiled. -/
theorem size_desired (hx : x.composition = c.id)
    (hplan : (make a resolver x c).result = .ok plan) :
    plan.desired.size = (a.store.compiledPairs resolver c).dedup.length := by
  have hinj : ∀ p ∈ (a.store.compiledPairs resolver c).dedup,
      ∀ q ∈ (a.store.compiledPairs resolver c).dedup,
      Naming.edgeWatcher c.id p.1 p.2 = Naming.edgeWatcher c.id q.1 q.2 → p = q := by
    intro p hp q _ heq
    obtain ⟨e, -, cond, hcond, rfl⟩ := Store.mem_compiledPairs.1 (List.mem_dedup.1 hp)
    obtain ⟨k, hk, -⟩ := Option.bind_eq_some_iff.1 hcond
    obtain ⟨hs, ht, -⟩ := Edge.known?_eq_some.1 hk
    obtain ⟨hsource, htarget⟩ := Naming.edgeWatcher_inj hs ht heq
    exact Prod.ext hsource htarget
  have hids : ((a.store.compiledPairs resolver c).dedup.map fun p =>
      Naming.edgeWatcher c.id p.1 p.2).Nodup :=
    (List.nodup_map_iff_inj_on (List.nodup_dedup _)).2 hinj
  have hkeys : plan.desired.keys.Nodup := by
    refine plan.desired.keys_ordered.imp fun {j k} hlt => ?_
    rintro rfl
    exact String.lt_irrefl j hlt
  have hperm : plan.desired.keys.Perm ((a.store.compiledPairs resolver c).dedup.map fun p =>
      Naming.edgeWatcher c.id p.1 p.2) := by
    refine (List.perm_ext_iff_of_nodup hkeys hids).2 fun id => ?_
    rw [Table.mem_keys, ← Option.isSome_iff_exists, ← Table.contains, contains_iff hx hplan,
      Store.compiledIds]
    simp only [List.mem_map, List.mem_dedup]
  have hlength := hperm.length_eq
  rw [List.length_map] at hlength
  rw [← hlength, Table.keys, List.length_map, Table.size]

/-! ### Rows that can be decoded -/

variable {s : Store}

theorem works_get? {id : String} (h : s.watchers.get? id ≠ some .damaged) :
    Works (Access.get? ⟨s, .none⟩ id) := by
  refine ActiveSet.works_attempt rfl ?_
  unfold Works
  rw [result_lift, Store.get?]
  split
  · exact ⟨_, rfl⟩
  · next hrow => exact absurd hrow h
  · exact ⟨_, rfl⟩

theorem standaloneSimilarity_eq_ok {glyph : String}
    (h : s.watchers.get? (Naming.semanticWatcher glyph) ≠ some .damaged) :
    (standaloneSimilarity ⟨s, .none⟩ glyph).result = .ok (s.similarityOf glyph) := by
  obtain ⟨v, hv⟩ : Works (standaloneSimilarity ⟨s, .none⟩ glyph) :=
    works_bind (works_get? h) fun _ => works_pure _
  rw [hv, standaloneSimilarity_ensures glyph v hv]

/-- An edge can be resolved if the rows looked up for it can be decoded. -/
theorem readable_of_decodes {k : KnownEdge}
    (h : ∀ id ∈ k.consulted s, s.watchers.get? id ≠ some .damaged) :
    Readable ⟨s, .none⟩ x k := by
  unfold Readable
  unfold KnownEdge.consulted at h
  cases hc : k.isCompound with
  | true =>
    rw [hc, if_pos rfl] at h
    rw [if_pos rfl]
    obtain ⟨hsource, htarget⟩ := List.forall_mem_cons.1 h
    refine works_bind_iff.2 ⟨_, standaloneSimilarity_eq_ok hsource, ?_⟩
    cases hs : s.similarityOf k.edge.source with
    | none => exact works_pure _
    | some source =>
      rw [hs, Option.isSome_some, if_pos rfl] at htarget
      refine works_bind_iff.2 ⟨_, standaloneSimilarity_eq_ok (htarget _ List.mem_cons_self), ?_⟩
      cases s.similarityOf k.edge.target <;> exact works_pure _
  | false =>
    rw [hc, if_neg Bool.false_ne_true] at h
    rw [if_neg Bool.false_ne_true]
    unfold resolveOther
    split
    · exact works_pure _
    split
    · exact works_pure _
    · next hx =>
      rw [if_neg hx] at h
      cases hs : k.sourceKind with
      | query =>
        rw [hs] at h
        refine works_bind (works_bind (works_get? (h _ List.mem_cons_self)) fun _ => works_pure _)
          fun query => ?_
        cases query <;> exact works_pure _
      | semantic =>
        rw [hs] at h
        refine works_bind_iff.2 ⟨_, standaloneSimilarity_eq_ok (h _ List.mem_cons_self), ?_⟩
        cases s.similarityOf k.edge.source with
        | none => exact works_pure _
        | some source =>
          refine works_bind ?_ fun _ => works_pure _
          unfold antecedentFor
          exact works_bind ⟨_, rfl⟩ fun _ => works_pure _
      | python | prompt => exact works_pure _
      | ingest | note | document | subCanvas | attestationDisplay | other => exact works_pure _

end Plan

namespace System

variable {s s' : System} {resolver : Resolver} {config : CompilerConfig} {now : Moment}
  {c : Composition}

/-- A report and what was done agree with what becomes of the edges. -/
structure Reports (s s' : System) (resolver : Resolver) (config : CompilerConfig) (now : Moment)
    (c : Composition) (r : CompileReport) : Prop where
  /-- There is one entry for each edge that is skipped, repeats included. -/
  skipped : r.skipped.Perm ((Plan.dataFlow c).filterMap (s.store.skippedEdge? resolver c))
  /-- Every edge is compiled, or is in the report, or its target is nothing to be run. -/
  every : (s.store.compiledPairs resolver c).length + r.skipped.length +
    (Plan.dataFlow c).countP (fun e => s.store.outcome resolver c e = .notActionable) =
      (Plan.dataFlow c).length
  /-- Nothing is said of the edges to a glyph that is neither semantic nor to be run. -/
  silent : ∀ e, s.store.outcome resolver c e = .notActionable ↔ ∃ k,
    e.known? resolver = some k ∧ k.targetKind.isExecutable = false ∧ k.targetKind ≠ .semantic
  /-- Watchers are stored for the edges that are compiled, and for no others. -/
  listed : ∀ id, (∃ v ∈ s'.store.listByStem (Naming.edgeStem c.id), v.id = id) ↔
    id ∈ s.store.compiledIds resolver c
  /-- Each of them is the one that its edge asks for. -/
  rules : ∀ e ∈ Plan.dataFlow c, ∀ cond, s.store.outcome resolver c e = .compiled cond → ∃ k v,
    e.known? resolver = some k ∧
    s'.store.watchers.get? (Naming.edgeWatcher c.id e.source e.target) = some (.intact v) ∧
    v.rule.Alike (cond.watcher ⟨c.id, config, now⟩ k).rule
  kept : r.created + r.replaced + r.unchanged = (s.store.compiledPairs resolver c).dedup.length
  deleted : r.deleted = (s.store.listByStem (Naming.edgeStem c.id)).countP fun v =>
    v.id ∉ s.store.compiledIds resolver c
  /-- The report is one of changes exactly if the commit has written or removed a row. -/
  changed : ∃ plan commit,
    (Plan.make (s.access .none) resolver ⟨c.id, config, now⟩ c).result = .ok plan ∧
    commit = Commit.run .none s.store (Write.toward s.store c.id plan.desired now) ∧
    s'.store = commit.store ∧ (r.changed = false ↔ commit.performed = [])
  idle : r.changed = false → s'.store = s.store ∧ s'.engine = s.engine

/-- Edges in any other direction contribute nothing. -/
theorem compile_dataFlow (s : System) (outage : Outage) (resolver : Resolver)
    (config : CompilerConfig) (now : Moment) (c : Composition) :
    s.compile outage resolver config now { c with edges := Plan.dataFlow c } =
      s.compile outage resolver config now c := by
  have hflow : Plan.dataFlow { c with edges := Plan.dataFlow c } = Plan.dataFlow c := by
    simp [Plan.dataFlow]
  have hmake : ∀ a x, Plan.make a resolver x { c with edges := Plan.dataFlow c } =
      Plan.make a resolver x c := by
    intro a x
    rw [Plan.make, Plan.make, hflow]
  have hprepare : ∀ x, s.prepare outage resolver x { c with edges := Plan.dataFlow c } =
      s.prepare outage resolver x c := by
    intro x
    rw [prepare, prepare, hmake]
  rw [compile, compile, hprepare]

/-- Of the edges every one is counted once. -/
theorem outcomes_add_up (s : Store) (resolver : Resolver) (c : Composition) (es : List Edge) :
    (es.filterMap fun e => match s.outcome resolver c e with
        | .compiled _ => some (e.source, e.target)
        | _ => none).length + (es.filterMap (s.skippedEdge? resolver c)).length +
      es.countP (fun e => s.outcome resolver c e = .notActionable) = es.length := by
  induction es with
  | nil => rfl
  | cons e es ih =>
    rw [List.filterMap_cons, List.filterMap_cons, List.countP_cons, List.length_cons, ← ih,
      Store.skippedEdge?]
    cases s.outcome resolver c e <;> simp <;> omega

/-- A commit that works performs the whole difference. -/
theorem performed_toward {plan : Plan} (hs : s.store.Sound)
    (hplan : (Plan.make (s.access .none) resolver ⟨c.id, config, now⟩ c).result = .ok plan) :
    (Commit.run .none s.store (Write.toward s.store c.id plan.desired now)).performed =
      Write.toward s.store c.id plan.desired now := by
  have hfresh := Plan.make_fresh resolver c plan hplan
  have hd : Plan.Owned c.id plan.desired := hfresh.owned
  exact (Commit.run_of_works (o := .none) s.store _
    (fun w hw => Write.fault?_of_mem_plan hd (fun k v hv => (hfresh k v hv).2.fit) hw)
    (Write.plan_pairwise hd) fun w hw => Write.changes_of_mem_toward hs hd hw).2.2

/-- Whether a report is one of changes is a matter of what the commit has performed. -/
theorem changed_reportOf_iff (existing : List Watcher) (plan : Plan) (now : Moment)
    (commit : Commit) :
    (reportOf existing plan now commit).changed = false ↔ commit.performed = [] := by
  have htouched : (reportOf existing plan now commit).touched = commit.performed.length :=
    commit.touched_eq
  rw [CompileReport.changed, htouched, decide_eq_false_iff_not, Nat.not_lt, Nat.le_zero,
    List.length_eq_zero_iff]

/-- The entries of a plan are those of its edges. -/
theorem skipped_perm {a : Access} {x : Plan.Context} {plan : Plan}
    (hplan : (Plan.make a resolver x c).result = .ok plan) :
    plan.skipped.Perm ((Plan.dataFlow c).filterMap (a.store.skippedEdge? resolver c)) := by
  rw [Plan.make_skipped resolver c plan hplan, List.append_assoc, ← List.filterMap_append]
  refine .trans ?_ (Store.filterMap_skippedEdge?_perm _).symm
  exact ((List.filter_append_perm _ _).filterMap _).append_left _

/-- Apart from the reload a compilation reports what its commit has done, and without a change there
is no reload. -/
theorem compile_reports {outage : Outage} {r : Compiled}
    (h : s.compile outage resolver config now c = (s', .ok r)) : ∃ plan commit reloaded,
      (Plan.make (s.access outage) resolver ⟨c.id, config, now⟩ c).result = .ok plan ∧
      commit = Commit.run outage s.store (Write.toward s.store c.id plan.desired now) ∧
      s'.store = commit.store ∧
      r.report = { reportOf (s.store.listByStem (Naming.edgeStem c.id)) plan now commit with
        reloaded } ∧
      (r.report.changed = false ↔ commit.performed = []) ∧
      (commit.performed = [] → s'.engine = s.engine) := by
  obtain ⟨-, plan, commit, hplan, hcommit, -, u, hreport, hs', hengine, hu, hu'⟩ :=
    compile_commits h
  obtain ⟨reloaded, hr⟩ : ∃ reloaded, r.report =
      { reportOf (s.store.listByStem (Naming.edgeStem c.id)) plan now commit with reloaded } := by
    rw [hreport]
    rcases u.reloadIfChanged_report outage _ with he | he
    · exact ⟨_, he⟩
    · exact ⟨_, he⟩
  refine ⟨plan, commit, reloaded, hplan, hcommit, ?_, hr, ?_, fun hnothing => ?_⟩
  · rw [hs', reloadIfChanged_store, hu]
  · rw [hr]
    exact changed_reportOf_iff (s.store.listByStem (Naming.edgeStem c.id)) plan now commit
  · rw [hengine, ← hu', reloadIfChanged, if_neg]
    rw [(changed_reportOf_iff ..).2 hnothing]
    exact Bool.false_ne_true

/-- What a compilation that works reports is what it has done. -/
theorem reports_of_compile {r : Compiled} (hs : s.store.Reachable)
    (h : s.compile .none resolver config now c = (s', .ok r)) :
    Reports s s' resolver config now c r.report := by
  obtain ⟨-, plan, hplan, hl⟩ := compile_leaves hs h
  obtain ⟨plan', commit, reloaded, hplan', rfl, hstore, hr, hchanged, hengine⟩ := compile_reports h
  obtain rfl := Except.ok.inj (hplan.symm.trans hplan')
  have hperformed := performed_toward hs.sound hplan
  obtain ⟨hdeleted, hkept⟩ := Write.counts_of_performed hperformed
  have hcontains : ∀ id, plan.desired.contains id = true ↔ id ∈ s.store.compiledIds resolver c :=
    fun id => Plan.contains_iff (a := s.access .none) (x := ⟨c.id, config, now⟩) rfl hplan
  have hskipped : plan.skipped.Perm
      ((Plan.dataFlow c).filterMap (s.store.skippedEdge? resolver c)) :=
    skipped_perm (a := s.access .none) hplan
  have hsize : plan.desired.size = (s.store.compiledPairs resolver c).dedup.length :=
    Plan.size_desired (a := s.access .none) (x := ⟨c.id, config, now⟩) rfl hplan
  refine ⟨?_, ?_, fun _ => Store.outcome_eq_notActionable, fun id => ?_,
    fun e he cond hcond => ?_, ?_, ?_, ?_, fun hidle => ?_⟩
  · rw [hr]
    exact hskipped
  · rw [hr, ← outcomes_add_up s.store resolver c, ← hskipped.length_eq]
    rfl
  · rw [← hcontains, Table.contains, Option.isSome_iff_exists]
    constructor
    · rintro ⟨v, hv, rfl⟩
      obtain ⟨hrow, hstem⟩ := (Store.mem_listByStem hl.sound).1 hv
      exact hl.planned hrow hstem
    · rintro ⟨w, hw⟩
      obtain ⟨v, hv, -⟩ := hl.left hw
      obtain ⟨rfl, -⟩ := hl.sound.watcher hv
      exact ⟨v, (Store.mem_listByStem hl.sound).2 ⟨hv, (hl.owned hw).2⟩, rfl⟩
  · obtain ⟨k, hk, hcond⟩ := Option.bind_eq_some_iff.1 (Store.outcome_eq_compiled.1 hcond)
    have hw : plan.desired.get? (Naming.edgeWatcher c.id e.source e.target) =
        some (cond.watcher ⟨c.id, config, now⟩ k) := by
      rw [Plan.make_conditions resolver rfl plan hplan e he, hk, Option.bind_some]
      exact congrArg (Option.map _) hcond
    obtain ⟨v, hrow, hrule⟩ := hl.left hw
    exact ⟨k, v, hk, hrow, .of_eq_or_same hrule⟩
  · rw [hr, ← hsize]
    exact hkept
  · rw [hr]
    refine (hdeleted.trans (Write.length_stale hs.sound _ _)).trans ?_
    refine List.countP_congr fun v _ => ?_
    rw [decide_eq_true_eq, ← hcontains, Bool.not_eq_true, Bool.not_eq_true']
  · exact ⟨plan, _, hplan, rfl, hstore, hchanged⟩
  · have hnothing := hchanged.1 hidle
    refine ⟨?_, hengine hnothing⟩
    rw [hperformed] at hnothing
    rw [hstore, hnothing]
    rfl

/-- Over a store that works and can be decoded where it is looked up, a compilation ends well
whatever the edges, and accounts for all of them. Edges in other directions contribute nothing, and
taking an edge out changes nothing about any other one, unless the edge is compiled to a compound
watcher that covers the source of the other. -/
theorem compile_best_effort (hs : s.store.Reachable) (hid : Naming.isSegment c.id = true)
    (hread : s.store.Decodes resolver c) (config : CompilerConfig) (now : Moment) :
    (∃ s' r, s.compile .none resolver config now c = (s', .ok r) ∧
      Reports s s' resolver config now c r.report) ∧
    s.compile .none resolver config now { c with edges := Plan.dataFlow c } =
      s.compile .none resolver config now c ∧
    ∀ before e after e', c.edges = before ++ e :: after →
      s.store.outcome resolver { c with edges := before ++ after } e' ≠
        s.store.outcome resolver c e' →
      e.isDataFlow = true ∧ e.target = e'.source ∧
        ∃ target source, s.store.outcome resolver c e = .compiled (.both target source) := by
  refine ⟨?_, compile_dataFlow .., fun before e after e' hc h => Store.outcome_of_removed hc h⟩
  obtain ⟨plan, hplan⟩ : Works (Plan.make (s.access .none) resolver ⟨c.id, config, now⟩ c) :=
    (Plan.works_make_iff (fun _ => ⟨_, rfl⟩) resolver c).2 fun k hk =>
      Plan.readable_of_decodes (hread k hk)
  obtain ⟨s', r, h, -⟩ := compileBy_of_works .ascending hs.sound hid hplan
  rw [← compile_eq_compileBy] at h
  exact ⟨s', r, h, reports_of_compile hs h⟩

end System

/-! One edge that is compiled, listed twice, among edges that cannot be: of a bad id, of a glyph whose
look-up fails, of a semantic glyph without a standalone watcher, to a note, and in another
direction. -/

namespace Sample

def kinds : Resolver := fun id =>
  if id = "p" then .ok (some .python)
  else if id = "n" then .ok (some .note)
  else if id = "f" then .error (.fatal "look-up")
  else .ok (some .semantic)

def mixed : Composition := ⟨"c", [⟨"a/b", "p", "right", 0⟩, ⟨"a", "p", "right", 1⟩,
  ⟨"f", "p", "right", 2⟩, ⟨"d", "p", "right", 3⟩, ⟨"a", "n", "right", 4⟩, ⟨"a", "p", "right", 5⟩,
  ⟨"d", "n", "left", 6⟩]⟩

end Sample

namespace System

/-- In the sample one watcher is created, the stale one is deleted, and three edges are named. -/
theorem sample_best_effort : ∃ s' r,
    (Sample.system .one).compile .none Sample.kinds .default default Sample.mixed = (s', .ok r) ∧
    Reports (Sample.system .one) s' Sample.kinds .default default Sample.mixed r.report ∧
    (r.report.created, r.report.unchanged, r.report.deleted) = (1, 0, 1) ∧
    r.report.skipped = [⟨"a/b", "p", .invalidGlyphId "a/b"⟩, ⟨"f", "p", .missingGlyph "f"⟩,
      ⟨"d", "p", .missingWatcher "se-glyph-d"⟩] := by
  have hs : (Sample.system .one).store.Reachable := ⟨_, rfl⟩
  have hread : (Sample.system .one).store.Decodes Sample.kinds Sample.mixed := by decide +kernel
  obtain ⟨⟨s', r, h, hreports⟩, -⟩ := compile_best_effort hs (by decide) hread .default default
  have hreport : ((Sample.system .one).compile .none Sample.kinds .default default
      Sample.mixed).2.toOption.map (fun r =>
        ((r.report.created, r.report.unchanged, r.report.deleted), r.report.skipped)) =
      some ((1, 0, 1), [⟨"a/b", "p", .invalidGlyphId "a/b"⟩, ⟨"f", "p", .missingGlyph "f"⟩,
        ⟨"d", "p", .missingWatcher "se-glyph-d"⟩]) := by decide +kernel
  rw [h] at hreport
  obtain ⟨hcounts, hskipped⟩ := Prod.mk.inj (Option.some.inj hreport)
  exact ⟨s', r, h, hreports, hcounts, hskipped⟩

end System

end Watchtower
