import Mathlib.Tactic.Common
import Watchtower.Proofs.Compilation.Conditions
import Watchtower.Proofs.Compilation.Interruption

/-!
Whether the order of edges matters.

Of all that an edge asks for, only what is upstream of its source depends on the other edges, and on
their order: where several semantic glyphs feed one, the first edge of the list has its way. Two
compositions with the same edges in different order are therefore compiled alike exactly if they
have the same upstream of every semantic glyph that feeds one that runs (`System.edge_order_iff`).
-/

namespace Watchtower

open Traced

/-! ### What depends on the other edges -/

namespace KnownEdge

/-- What is upstream of its source is in what an edge asks for, as it is, or not at all. -/
theorem condition?_cases (s : Store) (e : KnownEdge) :
    (∃ source, ∀ upstream,
      e.condition? s upstream = some (.similar source (upstream e.edge.source))) ∨
    ∀ upstream, (∀ upstream', e.condition? s upstream' = e.condition? s upstream) ∧
      ∀ source u, e.condition? s upstream ≠ some (.similar source u) := by
  unfold condition?
  cases e.isCompound with
  | true =>
    refine .inr fun upstream => ⟨fun _ => rfl, fun source u => ?_⟩
    cases s.similarityOf e.edge.source <;> cases s.similarityOf e.edge.target <;> simp
  | false =>
    cases e.targetKind.isExecutable with
    | false => exact .inr fun upstream => ⟨fun _ => rfl, by simp⟩
    | true =>
      cases e.sourceKind with
      | semantic =>
        cases s.similarityOf e.edge.source with
        | none => exact .inr fun upstream => ⟨fun _ => rfl, by simp⟩
        | some p => exact .inl ⟨p.antecedent, fun upstream => rfl⟩
      | query =>
        refine .inr fun upstream => ⟨fun _ => rfl, fun source u => ?_⟩
        cases s.queryOf e.edge.source <;> simp
      | python | prompt => exact .inr fun upstream => ⟨fun _ => rfl, by simp⟩
      | ingest | note | document | subCanvas | attestationDisplay | other =>
        exact .inr fun upstream => ⟨fun _ => rfl, by simp⟩

end KnownEdge

namespace Condition

/-- Watchers that ask for different things upstream are alike exactly if these are. -/
theorem alike_similar_iff (x y : Plan.Context) (hx : y.composition = x.composition)
    (hconfig : y.config = x.config) (e : KnownEdge) (source : Antecedent)
    {u v : Option Antecedent} :
    ((similar source u).watcher x e).rule.Alike ((similar source v).watcher y e).rule ↔
      Option.Rel Antecedent.Alike u v := by
  constructor
  · intro h
    exact h.antecedent
  · intro h
    have hbase := Rule.Alike.refl ((similar source u).watcher x e).rule
    refine ⟨rfl, rfl, rfl, ?_, rfl, rfl, hbase.similarity, h, ?_⟩
    · simp only [watcher, Plan.edgeWatcher, hx]
    · simp only [watcher, Plan.edgeWatcher, hconfig]

/-- The time of a compilation is not in its rules. -/
theorem rule_watcher_now (x y : Plan.Context) (hx : y.composition = x.composition)
    (hconfig : y.config = x.config) (e : KnownEdge) (cond : Condition) :
    (cond.watcher y e).rule = (cond.watcher x e).rule := by
  obtain ⟨composition, config, now⟩ := x
  obtain ⟨composition', config', now'⟩ := y
  obtain rfl : composition' = composition := hx
  obtain rfl : config' = config := hconfig
  cases cond <;> rfl

end Condition

/-! ### What the order of edges decides -/

namespace Composition

variable {c c' : Composition}

theorem dataFlow_perm (h : c.edges.Perm c'.edges) : (Plan.dataFlow c).Perm (Plan.dataFlow c') :=
  h.filter _

theorem known_perm (resolver : Resolver) (h : c.edges.Perm c'.edges) :
    (c.known resolver).Perm (c'.known resolver) := (dataFlow_perm h).filterMap _

end Composition

namespace Store

/-- Under a stem the same ids have rules, and these are alike. -/
def AlikeUnder (stem : String) (s t : Store) : Prop :=
  ∀ k, Naming.startsWith k stem = true → Option.Rel Rule.Alike (s.rule? k) (t.rule? k)

/-- Wherever an edge of the first composition asks for what is upstream of its source, this is the
same for both compositions. -/
def SameUpstream (s : Store) (resolver : Resolver) (c c' : Composition) : Prop :=
  ∀ e ∈ c.edges, e.isDataFlow = true → ∀ source u,
    s.condition? resolver c e = some (.similar source u) →
      Option.Rel Antecedent.Alike (s.upstream? resolver c e.source)
        (s.upstream? resolver c' e.source)

end Store

namespace Rule

/-- What is left where one rule or another is planned is alike exactly if these are. -/
theorem alike_settled_iff (stored : Option Rule) {r q : Rule} :
    (settled stored r).Alike (settled stored q) ↔ r.Alike q := by
  have hsettled : ∀ p : Rule, (settled stored p).Alike p := by
    intro p
    rcases settled_cases stored p with h | h
    · rw [h]
      exact .refl p
    · exact .of_same h
  constructor
  · intro h
    exact (hsettled r).symm.trans (h.trans (hsettled q))
  · intro h
    exact (hsettled r).trans (h.trans (hsettled q).symm)

end Rule

theorem optionRel_map_iff {α β : Type} {R : α → α → Prop} {S : β → β → Prop} {f g : α → β}
    (h : ∀ u v, S (f u) (g v) ↔ R u v) {x y : Option α} :
    Option.Rel S (x.map f) (y.map g) ↔ Option.Rel R x y := by
  cases x with
  | none =>
    cases y with
    | none => exact ⟨fun _ => .none, fun _ => .none⟩
    | some v => exact ⟨nofun, nofun⟩
  | some u =>
    cases y with
    | none => exact ⟨nofun, nofun⟩
    | some v =>
      constructor
      · intro huv
        cases huv with
        | some huv => exact .some ((h u v).1 huv)
      · intro huv
        cases huv with
        | some huv => exact .some ((h u v).2 huv)

namespace Plan

variable {a : Access} {x y : Context} {resolver : Resolver} {c c' : Composition} {p p' : Plan}

/-- Two plans for one edge agree, unless the edge asks for what is upstream and this is not the
same. -/
theorem alike_edge_iff (s : Store) (upstream upstream' : String → Option Antecedent)
    (hx : y.composition = x.composition) (hconfig : y.config = x.config) (k : KnownEdge) :
    Option.Rel Rule.Alike
        (((k.condition? s upstream).map (Condition.watcher x k)).map (·.rule))
        (((k.condition? s upstream').map (Condition.watcher y k)).map (·.rule)) ↔
      ∀ source u, k.condition? s upstream = some (.similar source u) →
        Option.Rel Antecedent.Alike (upstream k.edge.source) (upstream' k.edge.source) := by
  rcases k.condition?_cases s with ⟨source, hsource⟩ | hfixed
  · have halike := Condition.alike_similar_iff x y hx hconfig k source
      (u := upstream k.edge.source) (v := upstream' k.edge.source)
    rw [hsource, hsource]
    constructor
    · intro h _ _ _
      cases h with
      | some h => exact halike.1 h
    · intro h
      exact .some (halike.2 (h source _ rfl))
  · obtain ⟨hsame, hnot⟩ := hfixed upstream
    rw [hsame upstream']
    refine iff_of_true ?_ fun source u h => absurd h (hnot source u)
    cases k.condition? s upstream with
    | none => exact .none
    | some cond =>
      rw [Option.map_some, Option.map_some, Option.map_some, Option.map_some,
        Condition.rule_watcher_now x y hx hconfig]
      exact .some (.refl _)

/-- Two plans for the same edges agree exactly if all edges that ask for what is upstream find the
same there. -/
theorem alike_planned_iff (hx : x.composition = c.id) (hy : y.composition = c'.id)
    (hconfig : y.config = x.config) (hid : c'.id = c.id) (hperm : c.edges.Perm c'.edges)
    (hp : (make a resolver x c).result = .ok p) (hp' : (make a resolver y c').result = .ok p') :
    (∀ k, Option.Rel Rule.Alike ((p.desired.get? k).map (·.rule))
        ((p'.desired.get? k).map (·.rule))) ↔
      a.store.SameUpstream resolver c c' := by
  have hflow := fun e => (Composition.dataFlow_perm hperm).mem_iff (a := e)
  have hdesired := make_conditions resolver hx p hp
  have hdesired' := make_conditions resolver hy p' hp'
  rw [hid] at hdesired'
  have hcomposition : y.composition = x.composition := hy.trans (hid.trans hx.symm)
  constructor
  · intro h e he hright source u hcond
    have hin : e ∈ dataFlow c := List.mem_filter.2 ⟨he, hright⟩
    obtain ⟨k, hk, hasks⟩ := Option.bind_eq_some_iff.1 hcond
    obtain rfl := (Edge.known?_eq_some.1 hk).2.2.2.2
    have halike := h (Naming.edgeWatcher c.id k.edge.source k.edge.target)
    rw [hdesired _ hin, hdesired' _ ((hflow _).1 hin), hk] at halike
    exact (alike_edge_iff a.store _ _ hcomposition hconfig k).1 halike source u hasks
  · intro h id
    by_cases hedge : ∃ e ∈ dataFlow c, id = Naming.edgeWatcher c.id e.source e.target
    · obtain ⟨e, hin, rfl⟩ := hedge
      rw [hdesired e hin, hdesired' e ((hflow e).1 hin)]
      cases hk : e.known? resolver with
      | none => exact .none
      | some k =>
        obtain rfl := (Edge.known?_eq_some.1 hk).2.2.2.2
        refine (alike_edge_iff a.store _ _ hcomposition hconfig k).2 fun source u hcond => ?_
        obtain ⟨he, hright⟩ := List.mem_filter.1 hin
        refine h k.edge he hright source u ?_
        rw [Store.condition?, hk]
        exact hcond
    · have hnone := make_elsewhere resolver hx p hp id fun e he heq => hedge ⟨e, he, heq⟩
      have hnone' := make_elsewhere resolver hy p' hp' id fun e he heq =>
        hedge ⟨e, (hflow e).2 he, hid ▸ heq⟩
      rw [hnone, hnone']
      exact .none

/-! ### Whether there is a plan -/

theorem works_bind_iff {α β : Type} {y : Traced α} {f : α → Traced β} :
    Works (y >>= f) ↔ ∃ v, y.result = .ok v ∧ Works (f v) := by
  unfold Works
  rw [result_bind]
  cases y.result <;> simp [Except.bind]

/-- A loop whose steps work or fail by themselves works if all of them do. -/
theorem works_foldlM_iff {α ι : Type} {f : α → ι → Traced α} {Q : ι → Prop} (is : List ι)
    (h : ∀ v i, Works (f v i) ↔ Q i) (v : α) : Works (is.foldlM f v) ↔ ∀ i ∈ is, Q i := by
  induction is generalizing v with
  | nil => simp [works_pure]
  | cons i is ih =>
    rw [List.foldlM_cons, works_bind_iff, List.forall_mem_cons, ← h v i]
    constructor
    · rintro ⟨w, hw, hrest⟩
      exact ⟨⟨w, hw⟩, (ih w).1 hrest⟩
    · rintro ⟨⟨w, hw⟩, hrest⟩
      exact ⟨w, hw, (ih w).2 hrest⟩

theorem works_add (o : Outcome) (e : KnownEdge) (r : Resolution) : Works (o.add e r) := by
  cases r <;> exact ⟨_, rfl⟩

/-- Where scans work, the table of antecedents does not decide whether an edge can be resolved. -/
theorem resolveOther_leads_of_scans (hscan : ∀ glyph, Works (a.compoundsFor glyph))
    (compounds compounds' : Compounds) (e : KnownEdge) :
    Leads (fun _ _ => True) (resolveOther a x compounds e) (resolveOther a x compounds' e) := by
  have hfound : ∀ glyph, Works (antecedentFor a x.composition compounds' glyph) := by
    intro glyph
    unfold antecedentFor
    cases compounds'.get? glyph with
    | some u => exact works_pure _
    | none => exact works_bind (hscan glyph) fun _ => works_pure _
  unfold resolveOther
  split
  · exact leads_pure trivial
  split
  · exact leads_pure trivial
  cases e.sourceKind with
  | semantic =>
    refine leads_bind (leads_refl _) ?_
    rintro similarity _ rfl
    cases similarity with
    | none => exact leads_pure trivial
    | some similarity =>
      refine leads_bind (R := fun _ _ => True) (fun _ _ => ?_) fun _ _ _ => leads_pure trivial
      obtain ⟨u, hu⟩ := hfound e.edge.source
      exact ⟨u, hu, trivial⟩
  | query =>
    refine leads_bind (leads_refl _) ?_
    rintro query _ rfl
    cases query <;> exact leads_pure trivial
  | python | prompt => exact leads_pure trivial
  | ingest | note | document | subCanvas | attestationDisplay | other => exact leads_pure trivial

theorem works_addCompound_iff (o : Outcome) (e : KnownEdge) :
    Works (Outcome.addCompound a x o e) ↔ Works (resolveCompound a x e) := by
  rw [Outcome.addCompound, works_bind_iff]
  exact ⟨fun ⟨r, hr, _⟩ => ⟨r, hr⟩, fun ⟨r, hr⟩ => ⟨r, hr, works_add o e r⟩⟩

theorem works_addOther_iff (hscan : ∀ glyph, Works (a.compoundsFor glyph)) (o : Outcome)
    (e : KnownEdge) : Works (Outcome.addOther a x o e) ↔ Works (resolveOther a x .empty e) := by
  have hleads := fun compounds compounds' =>
    resolveOther_leads_of_scans (x := x) hscan compounds compounds' e
  rw [Outcome.addOther, works_bind_iff]
  constructor
  · rintro ⟨r, hr, -⟩
    obtain ⟨r', hr', -⟩ := hleads o.compounds .empty r hr
    exact ⟨r', hr'⟩
  · rintro ⟨r, hr⟩
    obtain ⟨r', hr', -⟩ := hleads .empty o.compounds r hr
    exact ⟨r', hr', works_add o e r'⟩

/-- The rows that resolving an edge reads can be read. -/
def Readable (a : Access) (x : Context) (e : KnownEdge) : Prop :=
  Works (if e.isCompound then resolveCompound a x e else resolveOther a x .empty e)

/-- There is a plan exactly if all that known edges read can be read, in whatever order they
stand. -/
theorem works_make_iff (hscan : ∀ glyph, Works (a.compoundsFor glyph)) (resolver : Resolver)
    (c : Composition) :
    Works (make a resolver x c) ↔ ∀ e ∈ c.known resolver, Readable a x e := by
  have hexamined : (examineAll resolver (dataFlow c)).result = .ok (c.known resolver,
      (dataFlow c).filterMap (Edge.unknown? resolver)) := result_examineAll resolver (dataFlow c)
  have hmake : Works (make a resolver x c) ↔
      (∀ e ∈ (c.known resolver).filter KnownEdge.isCompound, Works (resolveCompound a x e)) ∧
        ∀ e ∈ (c.known resolver).filter (not ∘ KnownEdge.isCompound),
          Works (resolveOther a x .empty e) := by
    rw [make]
    simp only [works_bind_iff, result_sayAll, hexamined, Except.ok.injEq, exists_eq_left',
      List.partition_eq_filter_filter]
    rw [← works_foldlM_iff _ works_addCompound_iff
      ⟨.empty, .empty, (dataFlow c).filterMap (Edge.unknown? resolver)⟩]
    constructor
    · rintro ⟨-, -, o, ho, o', ho', -⟩
      exact ⟨⟨o, ho⟩, (works_foldlM_iff _ (works_addOther_iff hscan) o).1 ⟨o', ho'⟩⟩
    · rintro ⟨⟨o, ho⟩, hrest⟩
      obtain ⟨o', ho'⟩ := (works_foldlM_iff _ (works_addOther_iff hscan) o).2 hrest
      exact ⟨(), trivial, o, ho, o', ho', works_pure _⟩
  rw [hmake]
  simp only [List.mem_filter, Function.comp_apply, Bool.not_eq_true', Readable]
  constructor
  · rintro ⟨hc, ho⟩ e he
    cases hk : e.isCompound with
    | true => exact hc e ⟨he, hk⟩
    | false => exact ho e ⟨he, hk⟩
  · intro h
    refine ⟨fun e he => ?_, fun e he => ?_⟩
    · simpa [he.2] using h e he.1
    · simpa [he.2] using h e he.1

end Plan

namespace System

variable {s : System} {resolver : Resolver} {config : CompilerConfig} {now now' : Moment}
  {c c' : Composition}

/-- Over a store that works a compilation succeeds exactly if there is a plan for it, and a plan
alone decides what is left under the stem. Without one nothing is written. -/
theorem compile_of_working (hs : s.store.Sound) (hid : Naming.isSegment c.id = true)
    (resolver : Resolver) (config : CompilerConfig) (now : Moment) :
    (∃ plan, (Plan.make (s.access .none) resolver ⟨c.id, config, now⟩ c).result = .ok plan ∧
        (s.compile .none resolver config now c).2.isOk = true ∧
        ∀ k, Naming.startsWith k (Naming.edgeStem c.id) = true →
          (s.compile .none resolver config now c).1.store.rule? k =
            ((plan.desired.get? k).map (·.rule)).map (Rule.settled (s.store.rule? k))) ∨
      ¬ Works (Plan.make (s.access .none) resolver ⟨c.id, config, now⟩ c) ∧
        (s.compile .none resolver config now c).2.isOk = false ∧
        (s.compile .none resolver config now c).1.store = s.store := by
  cases hplan : (Plan.make (s.access .none) resolver ⟨c.id, config, now⟩ c).result with
  | ok plan =>
    obtain ⟨t, r, ht, hstore, -⟩ := compileBy_of_works .ascending hs hid hplan
    rw [← compile_eq_compileBy] at ht
    refine .inl ⟨plan, rfl, by rw [ht]; rfl, fun k hk => ?_⟩
    rw [ht, hstore, Write.rule?_toward hs (Plan.make_ensures resolver c plan hplan) hk]
  | error f =>
    refine .inr ⟨fun ⟨plan, hok⟩ => ?_, ?_⟩
    · rw [hplan] at hok
      cases hok
    · have hprepared : ∃ f, (s.prepare .none resolver ⟨c.id, config, now⟩ c).result = .error f := by
        cases hp : (s.prepare .none resolver ⟨c.id, config, now⟩ c).result with
        | error f => exact ⟨f, rfl⟩
        | ok found =>
          obtain ⟨-, -, hok⟩ := prepare_eq_ok.1 hp
          rw [hplan] at hok
          cases hok
      obtain ⟨f, hf⟩ := hprepared
      unfold compile
      rw [if_neg (by simp [hid])]
      dsimp only
      rw [hf]
      exact ⟨rfl, rfl⟩

theorem compile_of_unfit (hid : Naming.isSegment c.id = false) :
    s.compile .none resolver config now c = (s, .error (unfit c.id)) := by
  unfold compile
  rw [if_pos (by simp [hid])]

/-- If there is a plan for one order of the edges, there is one for any other. -/
theorem works_make_of_perm (hs : s.store.Sound) (hid : c'.id = c.id)
    (hperm : c.edges.Perm c'.edges) (now' : Moment)
    (h : Works (Plan.make (s.access .none) resolver ⟨c.id, config, now⟩ c)) :
    Works (Plan.make (s.access .none) resolver ⟨c'.id, config, now'⟩ c') := by
  have hscan : ∀ glyph, Works ((s.access .none).compoundsFor glyph) := fun _ => ⟨_, rfl⟩
  rw [Plan.works_make_iff hscan, ← hid] at h
  obtain ⟨plan, hplan⟩ := (Plan.works_make_iff hscan resolver c').2 fun e he =>
    h e ((Composition.known_perm resolver hperm).mem_iff.2 he)
  obtain ⟨plan', hplan', -⟩ := make_agrees hs hs rfl .none now' (fun _ _ => rfl) hplan
  exact ⟨plan', hplan'⟩

/-- Over a store that works, two compositions with the same edges in different order both compile or
both do not, and what they leave under the stem is alike exactly if, in case they compile, all edges
that ask for what is upstream of their source find the same there. -/
theorem edge_order_iff (hs : s.store.Reachable) (hid : c'.id = c.id)
    (hperm : c.edges.Perm c'.edges) (resolver : Resolver) (config : CompilerConfig)
    (now now' : Moment) :
    (s.compile .none resolver config now c).2.isOk =
        (s.compile .none resolver config now' c').2.isOk ∧
      (Store.AlikeUnder (Naming.edgeStem c.id) (s.compile .none resolver config now c).1.store
          (s.compile .none resolver config now' c').1.store ↔
        ((s.compile .none resolver config now c).2.isOk = true →
          s.store.SameUpstream resolver c c')) := by
  have hsame : ∀ t : Store, t.AlikeUnder (Naming.edgeStem c.id) t := fun t k _ =>
    optionRel_refl Rule.Alike.refl _
  cases hsegment : Naming.isSegment c.id with
  | false =>
    rw [compile_of_unfit hsegment, compile_of_unfit (hid.symm ▸ hsegment)]
    exact ⟨rfl, iff_of_true (hsame _) nofun⟩
  | true =>
    have hsegment' : Naming.isSegment c'.id = true := hid.symm ▸ hsegment
    have hcases := compile_of_working hs.sound hsegment resolver config now
    have hcases' := compile_of_working hs.sound hsegment' resolver config now'
    rcases hcases with ⟨p, hp, hok, hleft⟩ | ⟨hnot, hok, hstore⟩
    · rcases hcases' with ⟨p', hp', hok', hleft'⟩ | ⟨hnot', -, -⟩
      · refine ⟨hok.trans hok'.symm, ?_⟩
        have hplanned := Plan.alike_planned_iff (x := ⟨c.id, config, now⟩)
          (y := ⟨c'.id, config, now'⟩) rfl rfl rfl hid hperm hp hp'
        have howned : Plan.Owned c.id p.desired := Plan.make_ensures resolver c p hp
        have howned' : Plan.Owned c'.id p'.desired := Plan.make_ensures resolver c' p' hp'
        rw [hid] at hleft' howned'
        constructor
        · intro h _
          refine hplanned.1 fun k => ?_
          cases hk : Naming.startsWith k (Naming.edgeStem c.id) with
          | true =>
            have hrules := h k hk
            rw [hleft k hk, hleft' k hk] at hrules
            exact (optionRel_map_iff fun r q => Rule.alike_settled_iff _).1 hrules
          | false =>
            rw [howned.get?_eq_none hk, howned'.get?_eq_none hk]
            exact .none
        · intro h k hk
          rw [hleft k hk, hleft' k hk]
          exact (optionRel_map_iff fun r q => Rule.alike_settled_iff _).2 (hplanned.2 (h hok) k)
      · exact absurd (works_make_of_perm hs.sound hid hperm now' ⟨p, hp⟩) hnot'
    · rcases hcases' with ⟨p', hp', -, -⟩ | ⟨-, hok', hstore'⟩
      · exact absurd (works_make_of_perm hs.sound hid.symm hperm.symm now ⟨p', hp'⟩) hnot
      · refine ⟨hok.trans hok'.symm, iff_of_true ?_ fun h => ?_⟩
        · rw [hstore, hstore']
          exact hsame _
        · rw [hok] at h
          cases h

end System

/-! Two semantic glyphs that feed a third one, which feeds a glyph that runs. -/

namespace Sample

def trio : System :=
  { system .one with
    store := [.create (semantic "a" .one), .create (semantic "b" .one),
      .create (semantic "d" .one)].foldl Store.apply .empty }

/-- The edges in one order. -/
def fork : Composition :=
  ⟨"c", [⟨"a", "b", "right", 0⟩, ⟨"d", "b", "right", 1⟩, ⟨"b", "p", "right", 2⟩]⟩

/-- The same edges with the first two exchanged. -/
def forkSwapped : Composition :=
  ⟨"c", [⟨"d", "b", "right", 1⟩, ⟨"a", "b", "right", 0⟩, ⟨"b", "p", "right", 2⟩]⟩

/-- The same edges with the last one first. -/
def forkLastFirst : Composition :=
  ⟨"c", [⟨"b", "p", "right", 2⟩, ⟨"a", "b", "right", 0⟩, ⟨"d", "b", "right", 1⟩]⟩

end Sample

namespace System

/-- An edge may stand before the edges upstream of it. -/
theorem sample_last_first :
    Store.AlikeUnder (Naming.edgeStem "c")
      (Sample.trio.compile .none Sample.resolver .default default Sample.fork).1.store
      (Sample.trio.compile .none Sample.resolver .default default Sample.forkLastFirst).1.store := by
  have hs : Sample.trio.store.Reachable := ⟨_, rfl⟩
  have hid : Sample.forkLastFirst.id = Sample.fork.id := rfl
  have hperm : Sample.fork.edges.Perm Sample.forkLastFirst.edges := by decide
  have hiff := (edge_order_iff hs hid hperm Sample.resolver .default default default).2
  refine hiff.2 fun _ => ?_
  have hglyphs : ∀ e ∈ Sample.fork.edges,
      Sample.trio.store.upstream? Sample.resolver Sample.fork e.source =
        Sample.trio.store.upstream? Sample.resolver Sample.forkLastFirst e.source := by
    decide +kernel
  intro e he _ _ _ _
  rw [hglyphs e he]
  exact optionRel_refl Antecedent.Alike.refl _

/-- Of two edges into one glyph the first in the list decides what is asked downstream. -/
theorem sample_order_matters :
    Sample.trio.store.Reachable ∧ Sample.fork.edges.Perm Sample.forkSwapped.edges ∧
    ¬ Store.AlikeUnder (Naming.edgeStem "c")
      (Sample.trio.compile .none Sample.resolver .default default Sample.fork).1.store
      (Sample.trio.compile .none Sample.resolver .default default Sample.forkSwapped).1.store := by
  refine ⟨⟨_, rfl⟩, by decide, fun h => ?_⟩
  have hasked : ((Sample.trio.compile .none Sample.resolver .default default
      Sample.fork).1.store.rule? "meld-edge/c/b/p").bind (·.antecedent) = some ⟨"a", .one⟩ ∧
      ((Sample.trio.compile .none Sample.resolver .default default
        Sample.forkSwapped).1.store.rule? "meld-edge/c/b/p").bind (·.antecedent) =
          some ⟨"d", .one⟩ := by
    decide +kernel
  obtain ⟨hfork, hswapped⟩ := hasked
  obtain ⟨r, hr, hu⟩ := Option.bind_eq_some_iff.1 hfork
  obtain ⟨q, hq, hv⟩ := Option.bind_eq_some_iff.1 hswapped
  have halike := h "meld-edge/c/b/p" (by decide)
  rw [hr, hq] at halike
  have hantecedent := (rel_of_some halike).antecedent
  rw [hu, hv] at hantecedent
  exact absurd (rel_of_some hantecedent).query (by decide)

end System

end Watchtower
