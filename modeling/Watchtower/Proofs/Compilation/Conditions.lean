import Mathlib.Tactic.Common
import Watchtower.Proofs.Compilation.Commit
import Watchtower.Proofs.Evaluation

/-!
What the edges of a composition ask for.

What an edge asks of an attestation is said here without passes and tables: by the kinds of its two
glyphs, by the predicates of their standalone watchers, and by what lies upstream of its source
(`Store.condition?`). The planner goes over the edges twice and keeps a table of antecedents on the
way; it comes to the watchers of these conditions and to no others (`Plan.make_conditions`).
-/

namespace Watchtower

open Numeric (Single)
open Traced

/-! ### Conditions -/

/-- The predicate without its cluster. -/
def Similarity.antecedent (s : Similarity) : Antecedent := ⟨s.query, s.threshold⟩

/-- What an edge asks of an attestation. -/
inductive Condition where
  /-- The target's predicate and the source's both accept it. -/
  | both (target : Similarity) (source : Antecedent)
  /-- The source's query accepts it. -/
  | query (predicate : String)
  /-- The source has produced it. -/
  | produced (glyph : String)
  /-- The source's predicate accepts it, and so does the one upstream of the source. -/
  | similar (source : Antecedent) (upstream : Option Antecedent)
  deriving DecidableEq

namespace Condition

/-- The attestation is as asked. -/
def Holds (es : Evaluators) (default : Single) (a : Attestation) : Condition → Prop
  | both t s => es.AcceptsSimilarity default t.query t.threshold t.cluster a ∧
      es.AcceptsSimilarity default s.query s.threshold none a
  | query predicate => es.AcceptsQuery predicate a
  | produced glyph => ∃ x ∈ a.actors.keys, sameActor x (Naming.producer glyph) = true
  | similar s u => es.AcceptsSimilarity default s.query s.threshold none a ∧
      ∀ v ∈ u, es.AcceptsSimilarity default v.query v.threshold none a

end Condition

/-- The edge with the kinds of its ends, if both are segments and known. -/
def Edge.known? (resolver : Resolver) (e : Edge) : Option KnownEdge :=
  if Naming.isSegment e.source && Naming.isSegment e.target then do
    let source ← Plan.kind? resolver e.source
    let target ← Plan.kind? resolver e.target
    return ⟨e, source, target⟩
  else none

/-- The entry of the report for an edge that is not known. -/
def Edge.unknown? (resolver : Resolver) (e : Edge) : Option SkippedEdge :=
  match Plan.examine resolver e with
  | .ok _ => none
  | .error reason => some ⟨e.source, e.target, reason⟩

/-- The data-flow edges of a composition with known ends, in order. -/
def Composition.known (resolver : Resolver) (c : Composition) : List KnownEdge :=
  (Plan.dataFlow c).filterMap (Edge.known? resolver)

namespace Store

/-- The similarity predicate of a semantic glyph's standalone watcher. -/
def similarityOf (s : Store) (glyph : String) : Option Similarity :=
  (s.rule? (Naming.semanticWatcher glyph)).bind Rule.similarity

/-- The query of a query glyph's standalone watcher. -/
def queryOf (s : Store) (glyph : String) : Option String :=
  (s.rule? (Naming.queryWatcher glyph)).bind Rule.query

/-- The antecedent of the first enabled compound watcher of another composition that covers a
glyph. -/
def antecedentElsewhere (s : Store) (composition glyph : String) : Option Antecedent :=
  ((s.compoundsFor glyph).filter fun w =>
    !Naming.startsWith w.id (Naming.edgeStem composition)).findSome? fun w => w.rule.antecedent

end Store

namespace KnownEdge

/-- The antecedent that an edge between semantic glyphs provides for its target: the predicate of
its source, if both have one. -/
def antecedent? (s : Store) (glyph : String) (e : KnownEdge) : Option Antecedent :=
  if e.isCompound ∧ e.edge.target = glyph then do
    let source ← s.similarityOf e.edge.source
    let _ ← s.similarityOf e.edge.target
    return source.antecedent
  else none

/-- What the edge asks for, where it is known what is upstream of glyphs. -/
def condition? (s : Store) (upstream : String → Option Antecedent) (e : KnownEdge) :
    Option Condition :=
  if e.isCompound then do
    let source ← s.similarityOf e.edge.source
    let target ← s.similarityOf e.edge.target
    return .both target source.antecedent
  else if !e.targetKind.isExecutable then none
  else match e.sourceKind with
    | .query => (s.queryOf e.edge.source).map .query
    | .semantic => (s.similarityOf e.edge.source).map fun p =>
      .similar p.antecedent (upstream e.edge.source)
    | .python | .prompt => some (.produced e.edge.source)
    | _ => none

end KnownEdge

namespace Store

/-- What is upstream of a glyph: what the first edge of the composition that provides an antecedent
for it provides, or else the antecedent of another composition. -/
def upstream? (s : Store) (resolver : Resolver) (c : Composition) (glyph : String) :
    Option Antecedent :=
  ((c.known resolver).findSome? (KnownEdge.antecedent? s glyph)).or
    (s.antecedentElsewhere c.id glyph)

/-- What an edge of a composition asks for, if it can be compiled. -/
def condition? (s : Store) (resolver : Resolver) (c : Composition) (e : Edge) : Option Condition :=
  (e.known? resolver).bind (KnownEdge.condition? s (s.upstream? resolver c))

end Store

/-! ### Known edges -/

theorem Edge.known?_eq_some {resolver : Resolver} {e : Edge} {k : KnownEdge} :
    e.known? resolver = some k ↔ Naming.isSegment e.source = true ∧
      Naming.isSegment e.target = true ∧ Plan.kind? resolver e.source = some k.sourceKind ∧
        Plan.kind? resolver e.target = some k.targetKind ∧ k.edge = e := by
  obtain ⟨edge, source, target⟩ := k
  unfold known?
  cases Naming.isSegment e.source <;> cases Naming.isSegment e.target <;>
    cases Plan.kind? resolver e.source <;> cases Plan.kind? resolver e.target <;>
      simp [eq_comm, and_comm, and_left_comm]

namespace Plan

/-- Examining an edge finds its kinds exactly if it is known. -/
theorem examine_eq_ok {resolver : Resolver} {e : Edge} {k : KnownEdge} :
    examine resolver e = .ok k ↔ e.known? resolver = some k := by
  unfold examine Edge.known? badEnd?
  cases hs : Naming.isSegment e.source <;> cases ht : Naming.isSegment e.target <;>
    cases kind? resolver e.source <;> cases kind? resolver e.target <;> simp [hs, ht]

theorem examine_toOption (resolver : Resolver) (e : Edge) :
    (examine resolver e).toOption = e.known? resolver := by
  refine Option.ext fun k => ?_
  rw [← examine_eq_ok]
  cases examine resolver e <;> simp [Except.toOption]

end Plan

namespace Condition

/-- The watcher of an edge that asks for this. -/
def watcher (x : Plan.Context) (e : KnownEdge) : Condition → Watcher
  | both t s =>
    let w := Plan.edgeWatcher x e.edge .semanticMatch none
    { w with rule := { w.rule with similarity := some t, antecedent := some s } }
  | query predicate =>
    let w := Plan.edgeWatcher x e.edge .executeGlyph (some e.targetKind.tag)
    { w with rule := { w.rule with query := some predicate } }
  | produced glyph =>
    let w := Plan.edgeWatcher x e.edge .executeGlyph (some e.targetKind.tag)
    let actors := Labels.ofList [Naming.producer glyph]
    { w with rule := { w.rule with filter := { w.rule.filter with actors } } }
  | similar s u =>
    let w := Plan.edgeWatcher x e.edge .executeGlyph (some e.targetKind.tag)
    { w with rule := { w.rule with
      similarity := some ⟨s.query, s.threshold, none⟩, antecedent := u } }

@[simp] theorem watcher_id (x : Plan.Context) (e : KnownEdge) (cond : Condition) :
    (cond.watcher x e).id = Naming.edgeWatcher x.composition e.edge.source e.edge.target := by
  cases cond <;> rfl

/-- Fresh watchers of edges are enabled. -/
theorem watcher_enabled (x : Plan.Context) (e : KnownEdge) (cond : Condition) :
    (cond.watcher x e).rule.enabled = true := by
  cases cond <;> rfl

/-- The watcher of a condition accepts what meets it. -/
theorem accepts_watcher_iff {es : Evaluators} {default : Single} {a : Attestation}
    (x : Plan.Context) (e : KnownEdge) (cond : Condition) :
    (cond.watcher x e).rule.Accepts es default a ↔ cond.Holds es default a := by
  cases cond with
  | both t s =>
    constructor
    · intro h
      exact ⟨h.similarity rfl t rfl, h.antecedent s rfl⟩
    · rintro ⟨ht, hs⟩
      refine ⟨.inl rfl, nofun, ?_, ?_⟩
      · intro _ t' ht'
        obtain rfl := Option.some.inj (Option.mem_def.1 ht')
        exact ht
      · intro s' hs'
        obtain rfl := Option.some.inj (Option.mem_def.1 hs')
        exact hs
  | query predicate =>
    constructor
    · intro h
      exact h.query predicate rfl
    · intro h
      refine ⟨.inl rfl, ?_, nofun, nofun⟩
      intro predicate' h'
      obtain rfl := Option.some.inj (Option.mem_def.1 h')
      exact h
  | produced glyph =>
    have hkeys : (Labels.ofList [Naming.producer glyph]).keys = [Naming.producer glyph] := rfl
    constructor
    · intro h
      rcases h.actors with hnone | hsome
      · cases hnone
      · simpa [watcher, Attestation.hasAnyActor, hkeys, Holds] using hsome
    · intro h
      refine ⟨.inr ?_, nofun, fun _ => nofun, nofun⟩
      simpa [watcher, Attestation.hasAnyActor, hkeys, Holds] using h
  | similar s u =>
    constructor
    · intro h
      exact ⟨h.similarity rfl _ rfl, h.antecedent⟩
    · rintro ⟨hs, hu⟩
      refine ⟨.inl rfl, nofun, ?_, hu⟩
      intro _ s' hs'
      obtain rfl := Option.some.inj (Option.mem_def.1 hs')
      exact hs

end Condition

/-! ### What the planner reads -/

/-- The watcher that an edge is resolved to, if it is compiled. -/
def Resolution.watcher? : Resolution → Option Watcher
  | .compiled w => some w
  | _ => none

namespace Plan

variable {a : Access} {x : Context}

theorem get?_ensures (id : String) :
    Ensures (fun w => w.map (·.rule) = a.store.rule? id) (a.get? id) := by
  intro w hw
  have hget := (Access.attempt_result.1 hw).2
  rw [result_lift, Store.get?] at hget
  rw [Store.rule?]
  cases hrow : a.store.watchers.get? id with
  | none =>
    rw [hrow] at hget
    obtain rfl := Except.ok.inj hget
    rfl
  | some row =>
    rw [hrow] at hget
    cases row with
    | damaged => cases hget
    | intact v =>
      obtain rfl := Except.ok.inj hget
      rfl

theorem standaloneSimilarity_ensures (glyph : String) :
    Ensures (· = a.store.similarityOf glyph) (standaloneSimilarity a glyph) := by
  refine ensures_bind (get?_ensures _) fun w hw => ensures_pure ?_
  rw [Store.similarityOf, ← hw, Option.bind_map]
  rfl

theorem standaloneQuery_ensures (glyph : String) :
    Ensures (· = a.store.queryOf glyph) (standaloneQuery a glyph) := by
  refine ensures_bind (get?_ensures _) fun w hw => ensures_pure ?_
  rw [Store.queryOf, ← hw, Option.bind_map]
  rfl

theorem antecedentFor_ensures (c : String) (compounds : Compounds) (glyph : String) :
    Ensures (· = (compounds.get? glyph).or (a.store.antecedentElsewhere c glyph))
      (antecedentFor a c compounds glyph) := by
  unfold antecedentFor
  cases compounds.get? glyph with
  | some u => exact ensures_pure rfl
  | none =>
    refine ensures_bind (P := (· = a.store.compoundsFor glyph)) ?_ ?_
    · intro found h
      exact (Except.ok.inj (Access.attempt_result.1 h).2).symm
    · rintro found rfl
      exact ensures_pure rfl

/-! ### What edges are resolved to -/

/-- An edge between semantic glyphs is resolved to the watcher of its condition. -/
theorem resolveCompound_condition {e : KnownEdge} (he : e.isCompound = true)
    (upstream : String → Option Antecedent) :
    Ensures (fun r => r.watcher? = (e.condition? a.store upstream).map (Condition.watcher x e))
      (resolveCompound a x e) := by
  unfold KnownEdge.condition?
  rw [if_pos he]
  refine ensures_bind (standaloneSimilarity_ensures _) ?_
  rintro source hsource
  rw [← hsource]
  cases source with
  | none => exact ensures_pure rfl
  | some source =>
    refine ensures_bind (standaloneSimilarity_ensures _) ?_
    rintro target htarget
    rw [← htarget]
    cases target with
    | none => exact ensures_pure rfl
    | some target => exact ensures_pure rfl

/-- So is any other edge, if the table of antecedents and the store tell what is upstream. -/
theorem resolveOther_condition {e : KnownEdge} (he : e.isCompound = false) {compounds : Compounds}
    {upstream : String → Option Antecedent} (hup : ∀ glyph, upstream glyph =
      (compounds.get? glyph).or (a.store.antecedentElsewhere x.composition glyph)) :
    Ensures (fun r => r.watcher? = (e.condition? a.store upstream).map (Condition.watcher x e))
      (resolveOther a x compounds e) := by
  unfold resolveOther KnownEdge.condition?
  rw [if_neg (c := e.isCompound = true) (by simp [he])]
  by_cases hsemantic : e.targetKind = .semantic
  · rw [if_pos hsemantic, hsemantic]
    exact ensures_pure rfl
  rw [if_neg hsemantic]
  by_cases hruns : (!e.targetKind.isExecutable) = true
  · rw [if_pos hruns, if_pos hruns]
    exact ensures_pure rfl
  rw [if_neg hruns, if_neg hruns]
  cases e.sourceKind with
  | query =>
    refine ensures_bind (standaloneQuery_ensures _) ?_
    rintro query hquery
    rw [← hquery]
    cases query with
    | none => exact ensures_pure rfl
    | some query => exact ensures_pure rfl
  | semantic =>
    refine ensures_bind (standaloneSimilarity_ensures _) ?_
    rintro similarity hsimilarity
    rw [← hsimilarity]
    cases similarity with
    | none => exact ensures_pure rfl
    | some similarity =>
      refine ensures_bind (antecedentFor_ensures _ _ _) ?_
      rintro antecedent hantecedent
      rw [← hup] at hantecedent
      rw [hantecedent]
      exact ensures_pure rfl
  | python | prompt => exact ensures_pure rfl
  | ingest | note | document | subCanvas | attestationDisplay | other => exact ensures_pure rfl

/-! ### What the passes come to -/

/-- The rows of the watchers of some edges. -/
def rows (s : Store) (upstream : String → Option Antecedent) (x : Context) (es : List KnownEdge) :
    List (String × Watcher) :=
  es.filterMap fun e => (e.condition? s upstream).map fun cond =>
    ((cond.watcher x e).id, cond.watcher x e)

/-- An edge that is compiled gets its watcher; one between semantic glyphs provides an antecedent,
too, where there is none. -/
theorem add_ensures (o : Outcome) (e : KnownEdge) (r : Resolution) :
    Ensures (fun o' =>
        o'.desired = (r.watcher?.elim o.desired fun w => o.desired.put w.id w) ∧
        ∀ glyph, o'.compounds.get? glyph = (o.compounds.get? glyph).or
          (if e.isCompound ∧ e.edge.target = glyph then r.watcher?.bind (·.rule.antecedent)
            else none)) (o.add e r) := by
  cases r with
  | compiled w =>
    refine ensures_pure ⟨rfl, fun glyph => ?_⟩
    cases hc : e.isCompound with
    | false => simp
    | true =>
      cases hu : w.rule.antecedent with
      | none => simp [Resolution.watcher?, hu]
      | some u =>
        by_cases ht : e.edge.target = glyph
        · subst ht
          cases hg : o.compounds.get? e.edge.target <;>
            simp [Table.contains, hg, Resolution.watcher?, hu]
        · cases hg : o.compounds.get? e.edge.target <;>
            simp [Table.contains, hg, Table.get?_put, ht]
  | skipped reason =>
    refine ensures_bind (ensures_true _) fun _ _ => ensures_pure ⟨rfl, fun glyph => ?_⟩
    simp [Resolution.watcher?]
  | notActionable =>
    refine ensures_bind (ensures_true _) fun _ _ => ensures_pure ⟨rfl, fun glyph => ?_⟩
    simp [Resolution.watcher?]

/-- The antecedent that an edge provides is that of its watcher. -/
theorem antecedent?_eq (s : Store) (upstream : String → Option Antecedent) (e : KnownEdge)
    (glyph : String) : (if e.isCompound ∧ e.edge.target = glyph then
        ((e.condition? s upstream).map (Condition.watcher x e)).bind (·.rule.antecedent)
      else none) = e.antecedent? s glyph := by
  unfold KnownEdge.antecedent?
  split
  · next h =>
    rw [KnownEdge.condition?, if_pos h.1]
    cases s.similarityOf e.edge.source with
    | none => rfl
    | some source => cases s.similarityOf e.edge.target <;> rfl
  · rfl

/-- The first pass. -/
theorem foldlM_addCompound (upstream : String → Option Antecedent) (es : List KnownEdge)
    (hes : ∀ e ∈ es, e.isCompound = true) (o : Outcome) :
    Ensures (fun o' =>
        o'.desired = (rows a.store upstream x es).foldl (fun t r => t.put r.1 r.2) o.desired ∧
        ∀ glyph, o'.compounds.get? glyph =
          (o.compounds.get? glyph).or (es.findSome? (KnownEdge.antecedent? a.store glyph)))
      (es.foldlM (Outcome.addCompound a x) o) := by
  induction es generalizing o with
  | nil => exact ensures_pure ⟨rfl, fun glyph => by simp⟩
  | cons e es ih =>
    rw [List.foldlM_cons]
    refine ensures_bind (ensures_bind
      (resolveCompound_condition (hes e List.mem_cons_self) upstream)
      fun r hr => hr ▸ add_ensures o e r) fun o₁ ho₁ => ?_
    obtain ⟨hdesired, hcompounds⟩ := ho₁
    intro o' ho'
    obtain ⟨hdesired', hcompounds'⟩ := ih (fun e he => hes e (List.mem_cons_of_mem _ he)) o₁ o' ho'
    refine ⟨?_, fun glyph => ?_⟩
    · rw [hdesired', hdesired, rows, rows, List.filterMap_cons]
      cases e.condition? a.store upstream <;> rfl
    · rw [hcompounds', hcompounds, antecedent?_eq, Option.or_assoc, List.findSome?_cons]
      cases e.antecedent? a.store glyph <;> simp

/-- The second pass. -/
theorem foldlM_addOther (upstream : String → Option Antecedent) (es : List KnownEdge)
    (hes : ∀ e ∈ es, e.isCompound = false) (o : Outcome) (hup : ∀ glyph, upstream glyph =
      (o.compounds.get? glyph).or (a.store.antecedentElsewhere x.composition glyph)) :
    Ensures (fun o' =>
        o'.desired = (rows a.store upstream x es).foldl (fun t r => t.put r.1 r.2) o.desired)
      (es.foldlM (Outcome.addOther a x) o) := by
  induction es generalizing o with
  | nil => exact ensures_pure rfl
  | cons e es ih =>
    have he := hes e List.mem_cons_self
    rw [List.foldlM_cons]
    refine ensures_bind (ensures_bind (resolveOther_condition he hup)
      fun r hr => hr ▸ add_ensures o e r) fun o₁ ho₁ => ?_
    obtain ⟨hdesired, hcompounds⟩ := ho₁
    have hup₁ : ∀ glyph, upstream glyph =
        (o₁.compounds.get? glyph).or (a.store.antecedentElsewhere x.composition glyph) := by
      intro glyph
      rw [hcompounds, hup, if_neg (by simp [he]), Option.or_none]
    intro o' ho'
    rw [ih (fun e he => hes e (List.mem_cons_of_mem _ he)) o₁ hup₁ o' ho', hdesired, rows, rows,
      List.filterMap_cons]
    cases e.condition? a.store upstream <;> rfl

/-- An edge that is examined is known or has its entry in the report. -/
theorem result_examineOne (resolver : Resolver) (r : List KnownEdge × List SkippedEdge) (e : Edge) :
    (examineOne resolver r e).result =
      .ok (r.1 ++ (e.known? resolver).toList, r.2 ++ (e.unknown? resolver).toList) := by
  rw [← examine_toOption, Edge.unknown?, examineOne]
  cases examine resolver e with
  | ok k => exact congrArg Except.ok (Prod.ext rfl (List.append_nil _).symm)
  | error reason => exact congrArg Except.ok (Prod.ext (List.append_nil _).symm rfl)

theorem result_foldlM_examineOne (resolver : Resolver) (edges : List Edge)
    (r : List KnownEdge × List SkippedEdge) :
    (edges.foldlM (examineOne resolver) r).result =
      .ok (r.1 ++ edges.filterMap (Edge.known? resolver),
        r.2 ++ edges.filterMap (Edge.unknown? resolver)) := by
  induction edges generalizing r with
  | nil =>
    rw [List.filterMap_nil, List.filterMap_nil, List.append_nil, List.append_nil]
    rfl
  | cons e edges ih =>
    rw [List.foldlM_cons, result_bind, result_examineOne]
    refine (ih _).trans ?_
    rw [List.filterMap_cons, List.filterMap_cons]
    cases e.known? resolver <;> cases e.unknown? resolver <;> simp

/-- Examining edges finds those that are known, and reports the others. -/
theorem result_examineAll (resolver : Resolver) (edges : List Edge) :
    (examineAll resolver edges).result =
      .ok (edges.filterMap (Edge.known? resolver), edges.filterMap (Edge.unknown? resolver)) :=
  result_foldlM_examineOne resolver edges ([], [])

/-- Only edges between semantic glyphs provide antecedents. -/
theorem findSome?_antecedent? (s : Store) (glyph : String) (es : List KnownEdge) :
    (es.filter KnownEdge.isCompound).findSome? (KnownEdge.antecedent? s glyph) =
      es.findSome? (KnownEdge.antecedent? s glyph) := by
  induction es with
  | nil => rfl
  | cons e es ih =>
    cases he : e.isCompound with
    | true => simp only [List.filter_cons, he, if_true, List.findSome?_cons, ih]
    | false =>
      have hnone : e.antecedent? s glyph = none := by simp [KnownEdge.antecedent?, he]
      simp [he, hnone, ih]

/-- All the rows of a composition, those of the first pass first. -/
theorem make_rows (resolver : Resolver) {c : Composition} (hx : x.composition = c.id) :
    Ensures (fun p => p.desired = Table.ofList (rows a.store (a.store.upstream? resolver c) x
        ((c.known resolver).filter KnownEdge.isCompound ++
          (c.known resolver).filter fun e => !e.isCompound)))
      (make a resolver x c) := by
  refine ensures_bind (ensures_true _) fun _ _ =>
    ensures_bind (ensures_of_result (result_examineAll _ _)) ?_
  rintro _ rfl
  dsimp only
  rw [← Composition.known, List.partition_eq_filter_filter]
  dsimp only
  refine ensures_bind (foldlM_addCompound (a.store.upstream? resolver c) _
    (fun e he => (List.mem_filter.1 he).2) _) fun o₁ ho₁ => ?_
  obtain ⟨hdesired, hcompounds⟩ := ho₁
  refine ensures_bind (foldlM_addOther (a.store.upstream? resolver c) _
    (fun e he => by simpa using (List.mem_filter.1 he).2) _ fun glyph => ?_) fun o₂ ho₂ => ?_
  · rw [hcompounds, findSome?_antecedent?, hx]
    rfl
  · refine ensures_pure ?_
    dsimp only
    rw [ho₂, hdesired, rows, rows, rows, List.filterMap_append, Table.ofList, List.foldl_append]
    rfl

theorem mem_known {resolver : Resolver} {c : Composition} {e : KnownEdge} :
    e ∈ c.known resolver ↔ e.edge ∈ dataFlow c ∧ e.edge.known? resolver = some e := by
  rw [Composition.known, List.mem_filterMap]
  constructor
  · rintro ⟨edge, hmem, hedge⟩
    obtain rfl := (Edge.known?_eq_some.1 hedge).2.2.2.2
    exact ⟨hmem, hedge⟩
  · rintro ⟨hmem, hedge⟩
    exact ⟨e.edge, hmem, hedge⟩

/-- Where a known edge has the id of an edge's watcher, the edge is known and has the same kinds. -/
theorem known?_of_id {resolver : Resolver} {c : String} {e : Edge} {k : KnownEdge}
    (hk : k.edge.known? resolver = some k)
    (hid : Naming.edgeWatcher c k.edge.source k.edge.target =
      Naming.edgeWatcher c e.source e.target) :
    k.edge.source = e.source ∧ k.edge.target = e.target ∧
      e.known? resolver = some ⟨e, k.sourceKind, k.targetKind⟩ := by
  obtain ⟨hs, ht, hsource, htarget, -⟩ := Edge.known?_eq_some.1 hk
  obtain ⟨es, et⟩ := Naming.edgeWatcher_inj hs ht hid
  rw [es] at hs hsource
  rw [et] at ht htarget
  exact ⟨es, et, Edge.known?_eq_some.2 ⟨hs, ht, hsource, htarget, rfl⟩⟩

/-- What an edge asks for, and the watcher of that, depend on its ends alone. -/
theorem condition?_congr (s : Store) (upstream : String → Option Antecedent) {e : Edge}
    {k : KnownEdge} (hs : k.edge.source = e.source) (ht : k.edge.target = e.target) :
    k.condition? s upstream = KnownEdge.condition? s upstream ⟨e, k.sourceKind, k.targetKind⟩ ∧
      ∀ cond : Condition, cond.watcher x k = cond.watcher x ⟨e, k.sourceKind, k.targetKind⟩ := by
  obtain ⟨⟨source, target, direction, position⟩, sourceKind, targetKind⟩ := k
  obtain ⟨source', target', direction', position'⟩ := e
  obtain rfl : source = source' := hs
  obtain rfl : target = target' := ht
  exact ⟨rfl, fun cond => by cases cond <;> rfl⟩

/-- The rows of known edges, whichever pass they are from. -/
theorem mem_rows_iff {s : Store} {upstream : String → Option Antecedent} {resolver : Resolver}
    {c : Composition} {id : String} {w : Watcher} :
    (id, w) ∈ rows s upstream x ((c.known resolver).filter KnownEdge.isCompound ++
        (c.known resolver).filter fun e => !e.isCompound) ↔
      ∃ k ∈ c.known resolver, ∃ cond, k.condition? s upstream = some cond ∧
        (cond.watcher x k).id = id ∧ cond.watcher x k = w := by
  simp only [rows, List.mem_filterMap, Option.map_eq_some_iff, Prod.mk.injEq, List.mem_append,
    List.mem_filter, Bool.not_eq_true']
  refine exists_congr fun k => and_congr_left fun _ => ?_
  cases k.isCompound <;> simp

/-- A watcher with the id of an edge's watcher is the one for this edge. -/
theorem watcher_of_id {s : Store} {upstream : String → Option Antecedent} {resolver : Resolver}
    {c : Composition} (hx : x.composition = c.id) {k : KnownEdge} (hk : k ∈ c.known resolver)
    {cond : Condition} (hcond : k.condition? s upstream = some cond) {e : Edge}
    (hid : (cond.watcher x k).id = Naming.edgeWatcher c.id e.source e.target) :
    ∃ k', e.known? resolver = some k' ∧ k'.condition? s upstream = some cond ∧
      cond.watcher x k = cond.watcher x k' := by
  rw [Condition.watcher_id, hx] at hid
  obtain ⟨hs, ht, hknown⟩ := known?_of_id (mem_known.1 hk).2 hid
  obtain ⟨hsame, hwatcher⟩ := condition?_congr (x := x) s upstream hs ht
  exact ⟨_, hknown, hsame ▸ hcond, hwatcher cond⟩

/-- Under the id of a data-flow edge the planner puts the watcher of what the edge asks for, and
none if the edge cannot be compiled. -/
theorem make_conditions (resolver : Resolver) {c : Composition} (hx : x.composition = c.id) :
    Ensures (fun p => ∀ e ∈ dataFlow c,
        p.desired.get? (Naming.edgeWatcher c.id e.source e.target) =
          (e.known? resolver).bind fun k =>
            (k.condition? a.store (a.store.upstream? resolver c)).map (Condition.watcher x k))
      (make a resolver x c) := by
  intro p hp e he
  refine Option.ext fun w => ?_
  simp only [make_rows resolver hx p hp, Option.bind_eq_some_iff, Option.map_eq_some_iff]
  rw [Table.get?_ofList_of_agree, mem_rows_iff]
  · constructor
    · rintro ⟨k, hk, cond, hcond, hid, rfl⟩
      obtain ⟨k', hk', hcond', hw⟩ := watcher_of_id hx hk hcond hid
      exact ⟨k', hk', cond, hcond', hw.symm⟩
    · rintro ⟨k, hk, cond, hcond, rfl⟩
      obtain rfl := (Edge.known?_eq_some.1 hk).2.2.2.2
      exact ⟨k, mem_known.2 ⟨he, hk⟩, cond, hcond, by rw [Condition.watcher_id, hx], rfl⟩
  · -- rows of one id agree, since both are those of the edge that has the id
    rintro ⟨id, v⟩ hv ⟨id', v'⟩ hv' hid
    obtain rfl : id = id' := hid
    obtain ⟨k, hk, cond, hcond, hkid, rfl⟩ := mem_rows_iff.1 hv
    obtain ⟨k', hk', cond', hcond', hkid', rfl⟩ := mem_rows_iff.1 hv'
    rw [Condition.watcher_id (e := k'), hx] at hkid'
    obtain ⟨k'', hk'', hcond'', hw⟩ := watcher_of_id hx hk hcond (hkid.trans hkid'.symm)
    obtain rfl := Option.some.inj (hk''.symm.trans (mem_known.1 hk').2)
    obtain rfl := Option.some.inj (hcond''.symm.trans hcond')
    rw [hw]

/-- Nothing is planned under an id that no data-flow edge has. -/
theorem make_elsewhere (resolver : Resolver) {c : Composition} (hx : x.composition = c.id) :
    Ensures (fun p => ∀ id,
        (∀ e ∈ dataFlow c, id ≠ Naming.edgeWatcher c.id e.source e.target) →
          p.desired.get? id = none)
      (make a resolver x c) := by
  intro p hp id hnot
  rw [Option.eq_none_iff_forall_ne_some]
  intro w hw
  rw [make_rows resolver hx p hp] at hw
  obtain ⟨k, hk, cond, -, hid, -⟩ := mem_rows_iff.1 (Table.mem_of_get?_ofList hw)
  rw [Condition.watcher_id, hx] at hid
  exact hnot k.edge (mem_known.1 hk).1 hid.symm

end Plan

end Watchtower
