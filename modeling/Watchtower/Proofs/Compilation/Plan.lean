import Mathlib.Tactic.Common
import Watchtower.Compilation.Plan
import Watchtower.Proofs.Store

/-!
What a plan depends on, and what is in it.

The plan of a composition reads standalone watchers and compound watchers of other compositions, so
the rows under the composition's own stem do not matter to it. This is shown by running the planner
twice, over two stores that agree outside the stem (`Plan.make_leads`). The time enters the dates of
planned watchers only: planned rules are the same at any time.
-/

namespace Watchtower

namespace Traced

variable {α β γ δ : Type}

/-- What values have, and computations one after the other have if each of them has it, loops have
whose steps have it. -/
theorem foldlM_of_bind {ι : Type} {P : Traced α → Prop} (hpure : ∀ a, P (pure a))
    (hbind : ∀ {x : Traced α} {f : α → Traced α}, P x → (∀ a, P (f a)) → P (x >>= f))
    {f : α → ι → Traced α} (is : List ι) (hf : ∀ a i, P (f a i)) (a : α) : P (is.foldlM f a) := by
  induction is generalizing a with
  | nil => exact hpure a
  | cons i is ih =>
    rw [List.foldlM_cons]
    exact hbind (hf a i) ih

/-- Whenever the first computation has a result, so has the second, and the results are related. -/
def Leads (R : α → β → Prop) (x : Traced α) (y : Traced β) : Prop :=
  ∀ a, x.result = .ok a → ∃ b, y.result = .ok b ∧ R a b

theorem leads_refl (x : Traced α) : Leads (· = ·) x x := fun a h => ⟨a, h, rfl⟩

theorem leads_pure {R : α → β → Prop} {a : α} {b : β} (h : R a b) :
    Leads R (pure a) (pure b) := by
  rintro a' h'
  obtain rfl := Except.ok.inj h'
  exact ⟨b, rfl, h⟩

theorem leads_bind {R : α → β → Prop} {S : γ → δ → Prop} {x : Traced α} {y : Traced β}
    {f : α → Traced γ} {g : β → Traced δ} (h : Leads R x y)
    (hf : ∀ a b, R a b → Leads S (f a) (g b)) : Leads S (x >>= f) (y >>= g) := by
  intro c hc
  rw [result_bind] at hc
  cases hx : x.result with
  | error e => rw [hx] at hc; cases hc
  | ok a =>
    rw [hx] at hc
    obtain ⟨b, hy, hab⟩ := h a hx
    obtain ⟨d, hd, hcd⟩ := hf a b hab c hc
    exact ⟨d, by rw [result_bind, hy]; exact hd, hcd⟩

/-- Two runs over one list stay related if every step keeps them so. -/
theorem leads_foldlM {ι : Type} {R : α → β → Prop} {f : α → ι → Traced α} {g : β → ι → Traced β}
    (is : List ι) (hf : ∀ i ∈ is, ∀ a b, R a b → Leads R (f a i) (g b i)) {a : α} {b : β}
    (h : R a b) : Leads R (is.foldlM f a) (is.foldlM g b) := by
  induction is generalizing a b with
  | nil => exact leads_pure h
  | cons i is ih =>
    rw [List.foldlM_cons, List.foldlM_cons]
    refine leads_bind (hf i List.mem_cons_self a b h) ?_
    intro a' b' h'
    exact ih (fun j hj => hf j (List.mem_cons_of_mem _ hj)) h'

/-- What the computation results in, if it does, is as said. -/
def Ensures (P : α → Prop) (x : Traced α) : Prop := ∀ a, x.result = .ok a → P a

theorem ensures_pure {P : α → Prop} {a : α} (h : P a) : Ensures P (pure a) := by
  rintro a' h'
  obtain rfl := Except.ok.inj h'
  exact h

theorem ensures_bind {P : α → Prop} {Q : β → Prop} {x : Traced α} {f : α → Traced β}
    (h : Ensures P x) (hf : ∀ a, P a → Ensures Q (f a)) : Ensures Q (x >>= f) := by
  intro b hb
  rw [result_bind] at hb
  cases hx : x.result with
  | error e => rw [hx] at hb; cases hb
  | ok a => rw [hx] at hb; exact hf a (h a hx) b hb

theorem ensures_true (x : Traced α) : Ensures (fun _ => True) x := fun _ _ => trivial

/-- The result that is known is the only one. -/
theorem ensures_of_result {x : Traced α} {a : α} (h : x.result = .ok a) : Ensures (· = a) x :=
  fun _ hb => Except.ok.inj (hb.symm.trans h)

theorem ensures_foldlM {ι : Type} {P : α → Prop} {f : α → ι → Traced α} (is : List ι)
    (hf : ∀ i ∈ is, ∀ a, P a → Ensures P (f a i)) {a : α} (h : P a) :
    Ensures P (is.foldlM f a) := by
  induction is generalizing a with
  | nil => exact ensures_pure h
  | cons i is ih =>
    rw [List.foldlM_cons]
    refine ensures_bind (hf i List.mem_cons_self a h) ?_
    intro a' h'
    exact ih (fun j hj => hf j (List.mem_cons_of_mem _ hj)) h'

end Traced

open Traced

/-! ### Two stores that agree outside a stem -/

/-- Whatever the planner learns from the first store about rows outside a stem, it learns from the
second store, too. -/
structure Access.AnswersFor (stem : String) (a b : Access) : Prop where
  get : ∀ {id}, Naming.startsWith id stem = false → Leads (· = ·) (a.get? id) (b.get? id)
  compounds : ∀ glyph, Leads
    (fun found found' => (found.filter fun w => !Naming.startsWith w.id stem) =
      found'.filter fun w => !Naming.startsWith w.id stem)
    (a.compoundsFor glyph) (b.compoundsFor glyph)

namespace StoreCall

/-- The calls by which a compilation reads. -/
def plans : StoreCall → Bool
  | .get _ | .compoundsFor _ | .listByStem _ => true
  | _ => false

end StoreCall

namespace Access

theorem attempt_result {α : Type} {a : Access} {call : StoreCall} {act : Traced α} {v : α} :
    (a.attempt call act).result = .ok v ↔ a.outage call = none ∧ act.result = .ok v := by
  unfold attempt
  cases a.outage call <;> simp

/-- Two stores that differ under a stem only answer alike, where the calls of the planner work. -/
theorem answersFor {s t : Store} (hs : s.Sound) (ht : t.Sound) {stem : String}
    (h : (s.deleteByStem stem).watchers = (t.deleteByStem stem).watchers) {o p : Outage}
    (hop : ∀ call, call.plans = true → o call = none → p call = none) :
    AnswersFor stem ⟨s, o⟩ ⟨t, p⟩ where
  get := by
    intro id hid v hv
    obtain ⟨ho, hv⟩ := attempt_result.1 hv
    refine ⟨v, attempt_result.2 ⟨hop _ rfl ho, ?_⟩, rfl⟩
    have hrow : s.watchers.get? id = t.watchers.get? id := by
      have hrow := congrArg (·.get? id) h
      simpa [Store.get?_deleteByStem, hid] using hrow
    rw [← hv]
    simp only [result_lift, Store.get?, hrow]
  compounds := by
    intro glyph v hv
    obtain ⟨ho, hv⟩ := attempt_result.1 hv
    refine ⟨_, attempt_result.2 ⟨hop _ rfl ho, rfl⟩, ?_⟩
    obtain rfl := Except.ok.inj hv
    rw [Store.compoundsFor, Store.compoundsFor, ← Store.scan_deleteByStem hs,
      ← Store.scan_deleteByStem ht, Store.scan, Store.scan, h]

end Access

/-! ### Resolving edges -/

/-- The same resolution, the dates of its watcher left aside. -/
def Resolution.Alike : Resolution → Resolution → Prop
  | .compiled v, .compiled w => v.id = w.id ∧ v.rule = w.rule
  | .skipped r, .skipped s => r = s
  | .notActionable, .notActionable => True
  | _, _ => False

namespace Plan

variable {a b : Access} {x : Context} (now : Moment)

theorem standaloneSimilarity_leads {stem : String} (h : a.AnswersFor stem b) {glyph : String}
    (hg : Naming.startsWith (Naming.semanticWatcher glyph) stem = false) :
    Leads (· = ·) (standaloneSimilarity a glyph) (standaloneSimilarity b glyph) :=
  leads_bind (h.get hg) fun _ _ e => leads_pure (by rw [e])

theorem standaloneQuery_leads {stem : String} (h : a.AnswersFor stem b) {glyph : String}
    (hg : Naming.startsWith (Naming.queryWatcher glyph) stem = false) :
    Leads (· = ·) (standaloneQuery a glyph) (standaloneQuery b glyph) :=
  leads_bind (h.get hg) fun _ _ e => leads_pure (by rw [e])

/-- Compound watchers under the composition's own stem are passed over. -/
theorem antecedentFor_leads {c : String} (h : a.AnswersFor (Naming.edgeStem c) b)
    (compounds : Compounds) (glyph : String) :
    Leads (· = ·) (antecedentFor a c compounds glyph) (antecedentFor b c compounds glyph) := by
  unfold antecedentFor
  cases compounds.get? glyph with
  | some u => exact leads_refl _
  | none => exact leads_bind (h.compounds glyph) fun _ _ e => leads_pure (by rw [e])

theorem resolveCompound_leads (h : a.AnswersFor (Naming.edgeStem x.composition) b)
    (e : KnownEdge) :
    Leads Resolution.Alike (resolveCompound a x e) (resolveCompound b { x with now } e) := by
  have hsim := fun glyph => standaloneSimilarity_leads h
    (Naming.not_startsWith_semanticWatcher glyph x.composition)
  refine leads_bind (hsim e.edge.source) ?_
  rintro source _ rfl
  cases source with
  | none => exact leads_pure rfl
  | some source =>
    refine leads_bind (hsim e.edge.target) ?_
    rintro target _ rfl
    cases target with
    | none => exact leads_pure rfl
    | some target => exact leads_pure ⟨rfl, rfl⟩

theorem resolveOther_leads (h : a.AnswersFor (Naming.edgeStem x.composition) b)
    (compounds : Compounds) (e : KnownEdge) :
    Leads Resolution.Alike (resolveOther a x compounds e)
      (resolveOther b { x with now } compounds e) := by
  unfold resolveOther
  split
  · exact leads_pure rfl
  split
  · exact leads_pure trivial
  cases e.sourceKind with
  | query =>
    refine leads_bind (standaloneQuery_leads h
      (Naming.not_startsWith_queryWatcher _ x.composition)) ?_
    rintro query _ rfl
    cases query with
    | none => exact leads_pure rfl
    | some query => exact leads_pure ⟨rfl, rfl⟩
  | semantic =>
    refine leads_bind (standaloneSimilarity_leads h
      (Naming.not_startsWith_semanticWatcher _ x.composition)) ?_
    rintro similarity _ rfl
    cases similarity with
    | none => exact leads_pure rfl
    | some similarity =>
      refine leads_bind (antecedentFor_leads h compounds e.edge.source) ?_
      rintro antecedent _ rfl
      exact leads_pure ⟨rfl, rfl⟩
  | python | prompt => exact leads_pure ⟨rfl, rfl⟩
  | ingest | note | document | subCanvas | attestationDisplay | other => exact leads_pure rfl

/-! ### Collecting resolutions -/

/-- The same outcome, the dates of planned watchers left aside. -/
structure Outcome.Alike (o p : Outcome) : Prop where
  rules : o.desired.map (·.rule) = p.desired.map (·.rule)
  compounds : o.compounds = p.compounds
  skipped : o.skipped = p.skipped

theorem Outcome.add_leads {o p : Outcome} (h : o.Alike p) (e : KnownEdge) {r q : Resolution}
    (hr : r.Alike q) : Leads Outcome.Alike (o.add e r) (p.add e q) := by
  obtain ⟨hrules, hcompounds, hskipped⟩ := h
  cases r with
  | compiled v =>
    cases q with
    | compiled w =>
      obtain ⟨hid, hrule⟩ := hr
      refine leads_pure ⟨?_, ?_, hskipped⟩
      · simp only [Table.map_put, hrules, hid, hrule]
      · simp only [hcompounds, hrule]
    | skipped s => exact hr.elim
    | notActionable => exact hr.elim
  | skipped r =>
    cases q with
    | skipped s =>
      obtain rfl : r = s := hr
      refine leads_bind (leads_refl _) ?_
      rintro s _ rfl
      exact leads_pure ⟨hrules, hcompounds, by rw [hskipped]⟩
    | compiled w => exact hr.elim
    | notActionable => exact hr.elim
  | notActionable =>
    cases q with
    | notActionable =>
      exact leads_bind (leads_refl _) fun _ _ _ => leads_pure ⟨hrules, hcompounds, hskipped⟩
    | compiled w => exact hr.elim
    | skipped s => exact hr.elim

theorem Outcome.addCompound_leads (h : a.AnswersFor (Naming.edgeStem x.composition) b)
    {o p : Outcome} (hop : o.Alike p) (e : KnownEdge) :
    Leads Outcome.Alike (Outcome.addCompound a x o e) (Outcome.addCompound b { x with now } p e) :=
  leads_bind (resolveCompound_leads now h e) fun _ _ hr => Outcome.add_leads hop e hr

theorem Outcome.addOther_leads (h : a.AnswersFor (Naming.edgeStem x.composition) b)
    {o p : Outcome} (hop : o.Alike p) (e : KnownEdge) :
    Leads Outcome.Alike (Outcome.addOther a x o e) (Outcome.addOther b { x with now } p e) := by
  have hres := resolveOther_leads now h o.compounds e
  rw [hop.compounds] at hres
  unfold Outcome.addOther
  rw [hop.compounds]
  exact leads_bind hres fun _ _ hr => Outcome.add_leads hop e hr

/-- The same plan, the dates of planned watchers left aside. -/
structure Alike (p q : Plan) : Prop where
  rules : p.desired.map (·.rule) = q.desired.map (·.rule)
  skipped : p.skipped = q.skipped
  lookups : p.lookups = q.lookups

/-- Over two stores that agree outside the composition's stem the planner comes to the same plan,
whatever the time. -/
theorem make_leads {c : Composition} (hx : x.composition = c.id)
    (h : a.AnswersFor (Naming.edgeStem c.id) b) (resolver : Resolver) :
    Leads Alike (make a resolver x c) (make b resolver { x with now } c) := by
  rw [← hx] at h
  refine leads_bind (leads_refl _) fun _ _ _ => leads_bind (leads_refl _) ?_
  rintro ⟨known, skipped⟩ _ rfl
  refine leads_bind (leads_foldlM _ (fun e _ o p hop => Outcome.addCompound_leads now h hop e)
    ⟨rfl, rfl, rfl⟩) fun o p hop => ?_
  refine leads_bind (leads_foldlM _ (fun e _ o p hop => Outcome.addOther_leads now h hop e) hop)
    fun o p hop => ?_
  exact leads_pure ⟨hop.rules, hop.skipped, rfl⟩

/-! ### What is planned -/

/-- A watcher as the planner makes it: for an edge of the composition, fit to be stored, and new. -/
structure Fresh (x : Context) (w : Watcher) : Prop where
  edge : ∃ source target, w.id = Naming.edgeWatcher x.composition source target
  fit : w.defect? = none
  stats : w.stats = .none
  createdAt : w.createdAt = x.now
  updatedAt : w.updatedAt = x.now

/-- The watcher of an edge with its predicates put in: one primary at most, and no antecedent without
a similarity. -/
theorem fresh_of_rule (e : Edge) (action : ActionKind) (tag : Option String) {rule : Rule}
    (hname : rule.name = (edgeWatcher x e action tag).rule.name)
    (hactors : rule.filter.actors = .empty ∨ rule.query = none ∧ rule.similarity = none)
    (hquery : rule.query = none ∨ rule.similarity = none)
    (hantecedent : rule.similarity = none → rule.antecedent = none) :
    Fresh x { edgeWatcher x e action tag with rule } where
  edge := ⟨e.source, e.target, rfl⟩
  fit := by
    have hid : (edgeWatcher x e action tag).id ≠ "" := by
      simp [edgeWatcher, Naming.edgeWatcher, Naming.edgeStem]
    have hnamed : rule.name ≠ "" := by
      rw [hname]
      simp [edgeWatcher]
    have hone : rule.primaries.count true ≤ 1 := by
      unfold Rule.primaries
      rcases hactors with ha | ⟨hq, hs⟩
      · rcases hquery with hq | hs
        · cases rule.similarity <;> simp [ha, hq, Table.isEmpty, Table.empty]
        · cases rule.query <;> simp [ha, hs, Table.isEmpty, Table.empty]
      · cases rule.filter.actors.isEmpty <;> simp [hq, hs]
    have hpaired : (rule.antecedent.isSome && rule.similarity.isNone) = false := by
      cases hs : rule.similarity with
      | none => rw [hantecedent hs]; rfl
      | some s => simp
    simp [Watcher.defect?, hid, hnamed, Nat.not_lt.2 hone, hpaired]
  stats := rfl
  createdAt := rfl
  updatedAt := rfl

/-- A resolution has a fresh watcher or none. -/
def IsFresh (x : Context) : Resolution → Prop
  | .compiled w => Fresh x w
  | _ => True

theorem resolveCompound_ensures (e : KnownEdge) :
    Ensures (IsFresh x) (resolveCompound a x e) := by
  refine ensures_bind (ensures_true _) fun source _ => ?_
  cases source with
  | none => exact ensures_pure trivial
  | some source =>
    refine ensures_bind (ensures_true _) fun target _ => ?_
    cases target with
    | none => exact ensures_pure trivial
    | some target =>
      exact ensures_pure (fresh_of_rule e.edge _ _ rfl (.inl rfl) (.inl rfl) nofun)

theorem resolveOther_ensures (compounds : Compounds) (e : KnownEdge) :
    Ensures (IsFresh x) (resolveOther a x compounds e) := by
  unfold resolveOther
  split
  · exact ensures_pure trivial
  split
  · exact ensures_pure trivial
  cases e.sourceKind with
  | query =>
    refine ensures_bind (ensures_true _) fun query _ => ?_
    cases query with
    | none => exact ensures_pure trivial
    | some query =>
      exact ensures_pure (fresh_of_rule e.edge _ _ rfl (.inl rfl) (.inr rfl) fun _ => rfl)
  | semantic =>
    refine ensures_bind (ensures_true _) fun similarity _ => ?_
    cases similarity with
    | none => exact ensures_pure trivial
    | some similarity =>
      refine ensures_bind (ensures_true _) fun antecedent _ => ?_
      exact ensures_pure (fresh_of_rule e.edge _ _ rfl (.inl rfl) (.inl rfl) nofun)
  | python | prompt =>
    exact ensures_pure (fresh_of_rule e.edge _ _ rfl (.inr ⟨rfl, rfl⟩) (.inl rfl) fun _ => rfl)
  | ingest | note | document | subCanvas | attestationDisplay | other => exact ensures_pure trivial

/-- All watchers of a table are fresh and under their own ids. -/
def AllFresh (x : Context) (desired : Table Watcher) : Prop :=
  ∀ id w, desired.get? id = some w → w.id = id ∧ Fresh x w

theorem Outcome.add_ensures {o : Outcome} (h : AllFresh x o.desired) (e : KnownEdge)
    {r : Resolution} (hr : IsFresh x r) : Ensures (fun o => AllFresh x o.desired) (o.add e r) := by
  cases r with
  | compiled w =>
    refine ensures_pure fun id v hv => ?_
    rw [Table.get?_put] at hv
    split at hv
    · next hid =>
      obtain rfl := Option.some.inj hv
      exact ⟨hid, hr⟩
    · exact h id v hv
  | skipped reason => exact ensures_bind (ensures_true _) fun _ _ => ensures_pure h
  | notActionable => exact ensures_bind (ensures_true _) fun _ _ => ensures_pure h

theorem make_fresh (resolver : Resolver) (c : Composition) :
    Ensures (fun p => AllFresh x p.desired) (make a resolver x c) := by
  refine ensures_bind (ensures_true _) fun _ _ => ensures_bind (ensures_true _) ?_
  rintro ⟨known, skipped⟩ -
  have hempty : AllFresh x (Table.empty : Table Watcher) := fun id w h => by simp at h
  refine ensures_bind (P := fun o : Outcome => AllFresh x o.desired)
    (ensures_foldlM _ (fun e _ o ho => ?_) hempty) fun o ho => ?_
  · exact ensures_bind (resolveCompound_ensures e) fun r hr => Outcome.add_ensures ho e hr
  refine ensures_bind (P := fun o : Outcome => AllFresh x o.desired)
    (ensures_foldlM _ (fun e _ o ho => ?_) ho) fun o ho => ensures_pure ho
  exact ensures_bind (resolveOther_ensures _ e) fun r hr => Outcome.add_ensures ho e hr

/-- Planned watchers are under their own ids, which start with the composition's stem. -/
def Owned (c : String) (desired : Table Watcher) : Prop :=
  ∀ {id w}, desired.get? id = some w →
    w.id = id ∧ Naming.startsWith id (Naming.edgeStem c) = true

/-- Nothing is planned outside the stem. -/
theorem Owned.get?_eq_none {c k : String} {desired : Table Watcher} (h : Owned c desired)
    (hk : Naming.startsWith k (Naming.edgeStem c) = false) : desired.get? k = none := by
  rw [Option.eq_none_iff_forall_ne_some]
  intro w hw
  rw [(h hw).2] at hk
  cases hk

theorem AllFresh.owned {desired : Table Watcher} (h : AllFresh x desired) :
    Owned x.composition desired := by
  intro id w hw
  obtain ⟨rfl, hfresh⟩ := h id w hw
  obtain ⟨source, target, hid⟩ := hfresh.edge
  exact ⟨rfl, by rw [hid]; exact Naming.startsWith_edgeWatcher _ _ _⟩

theorem make_ensures (resolver : Resolver) (c : Composition) :
    Ensures (fun p => Owned x.composition p.desired) (make a resolver x c) :=
  fun p hp => (make_fresh resolver c p hp).owned

theorem Fresh.ext {v w : Watcher} (hv : Fresh x v) (hw : Fresh x w) (hid : v.id = w.id)
    (hrule : v.rule = w.rule) : v = w := by
  have hstats := hv.stats.trans hw.stats.symm
  have hcreated := hv.createdAt.trans hw.createdAt.symm
  have hupdated := hv.updatedAt.trans hw.updatedAt.symm
  cases v
  cases w
  exact Watcher.mk.injEq .. ▸ ⟨hid, hrule, hstats, hcreated, hupdated⟩

/-- Fresh watchers made at one time are the same if their rules are. -/
theorem AllFresh.ext {desired desired' : Table Watcher} (h : AllFresh x desired)
    (h' : AllFresh x desired') (hrules : desired'.map (·.rule) = desired.map (·.rule)) :
    desired' = desired := by
  refine Table.ext fun k => ?_
  have hrule : (desired'.get? k).map (·.rule) = (desired.get? k).map (·.rule) := by
    rw [← Table.get?_map, ← Table.get?_map, hrules]
  cases hw : desired.get? k with
  | none => simpa [hw] using hrule
  | some w =>
    rw [hw, Option.map_some] at hrule
    obtain ⟨w', hw', he⟩ := Option.map_eq_some_iff.1 hrule
    obtain ⟨hid, hfresh⟩ := h k w hw
    obtain ⟨hid', hfresh'⟩ := h' k w' hw'
    rw [hw', hfresh'.ext hfresh (hid'.trans hid.symm) he]

end Plan

end Watchtower
