import Mathlib.Tactic.Common
import Watchtower.Proofs.Compilation.EdgeOrder
import Watchtower.Proofs.Compilation.Restored
import Watchtower.Proofs.LatestCursor
import Watchtower.Proofs.Payload

/-!
Compiled watchers are well formed.

The store trusts a watcher to be fit, the reload trusts the coordinates in its payload, the search
for compound watchers trusts its action and its antecedent. All of it holds of every watcher that is
planned for an edge, whatever the kinds of its glyphs, the predicates copied and the characters of
the ids (`KnownEdge.Suits`). What the others make of such a watcher follows from that alone
(`KnownEdge.Serves`), and a compilation fails only where the store fails by itself
(`System.compiled_well_formed`).
-/

namespace Watchtower

open Traced

/-! ### Watchers that suit an edge -/

namespace KnownEdge

/-- The coordinates of the edge; the target has its tag if it is to be run. -/
def action (composition : String) (k : KnownEdge) : EdgeAction where
  target := k.edge.target
  targetTag := if k.targetKind.isExecutable then some k.targetKind.tag else none
  composition
  source := k.edge.source

/-- A watcher as it should be for an edge of a composition. -/
structure Suits (composition : String) (k : KnownEdge) (w : Watcher) : Prop where
  fit : w.defect? = none
  id : w.id = Naming.edgeWatcher composition k.edge.source k.edge.target
  enabled : w.rule.enabled = true
  edge : w.rule.edge? = some (k.action composition)
  compound : w.rule.isCompound = k.isCompound
  ungated : w.rule.filter.timeStart = none ∧ w.rule.filter.timeEnd = none

/-- What becomes of such a watcher in an engine: after a fire a reload starts it where the cursor of
this fire stands, unless a later one was there before, and all that it suppresses is the standalone
watcher of its target. -/
structure Serves (composition : String) (k : KnownEdge) (w : Watcher) : Prop where
  resumes : ∀ (s : Store) (a : Attestation), ∃ written read,
    System.cursorAfter? ⟨ActiveSet.seeded s w, a⟩ = some written ∧
    written.OfEdge composition k.edge.source k.edge.target ∧ written.lastAt = a.timestamp ∧
    ActiveSet.seeded (s.upsertCursor written) w = ActiveSet.gate w read.lastAt ∧
    (read = written ∨ a.timestamp.Before read.lastAt ∧
      s.cursor? composition k.edge.source k.edge.target = some read)
  suppresses : ∀ s : Store, s.Sound → s.watchers.get? w.id = some (.intact w) →
    ∀ id ∈ (ActiveSet.ofStore s).suppressed.toList,
      id ∈ (ActiveSet.ofStore (s.delete w.id)).suppressed.toList ∨
        k.isCompound = true ∧ id = Naming.semanticWatcher k.edge.target

/-- An edge between semantic glyphs asks for both predicates, and any other edge that asks for
something runs its target. -/
theorem condition?_kinds {s : Store} {upstream : String → Option Antecedent} {k : KnownEdge}
    {cond : Condition} (h : k.condition? s upstream = some cond) :
    (k.isCompound = true ∧ k.targetKind = .semantic ∧ ∃ t s, cond = .both t s) ∨
      k.isCompound = false ∧ k.targetKind.isExecutable = true ∧ ∀ t s, cond ≠ .both t s := by
  unfold condition? at h
  cases hc : k.isCompound with
  | true =>
    rw [if_pos hc] at h
    refine .inl ⟨rfl, ?_, ?_⟩
    · simp only [isCompound, Bool.and_eq_true, beq_iff_eq] at hc
      exact hc.2
    · obtain ⟨source, -, h⟩ := Option.bind_eq_some_iff.1 h
      obtain ⟨target, -, h⟩ := Option.bind_eq_some_iff.1 h
      obtain rfl := Option.some.inj h
      exact ⟨_, _, rfl⟩
  | false =>
    rw [if_neg (by simp [hc])] at h
    cases hx : k.targetKind.isExecutable with
    | false => simp [hx] at h
    | true =>
      refine .inr ⟨rfl, rfl, ?_⟩
      rw [hx, if_neg (by simp)] at h
      rintro t s rfl
      cases hs : k.sourceKind <;> simp [hs] at h

/-- The coordinates of an edge between segments are complete. -/
theorem isComplete_action {composition : String} {resolver : Resolver} {k : KnownEdge}
    (hid : Naming.isSegment composition = true) (hk : k.edge.known? resolver = some k) :
    (k.action composition).isComplete = true := by
  have hne : ∀ {s : String}, Naming.isSegment s = true → s ≠ "" := by
    rintro s h rfl
    exact (Naming.isSegment_iff.1 h).1 rfl
  obtain ⟨hs, ht, -⟩ := Edge.known?_eq_some.1 hk
  exact (EdgeAction.isComplete_iff _).2 ⟨hne hid, hne hs, hne ht⟩

/-- The payload of a condition's watcher states the coordinates of the edge. -/
theorem payload_watcher {x : Plan.Context} {s : Store} {upstream : String → Option Antecedent}
    {k : KnownEdge} {cond : Condition} (h : k.condition? s upstream = some cond) :
    (cond.watcher x k).rule.payload = (k.action x.composition).toPayload ∧
      (cond.watcher x k).rule.isCompound = k.isCompound := by
  rcases condition?_kinds h with ⟨hc, ht, t, u, rfl⟩ | ⟨hc, hx, hnot⟩
  · rw [hc, action, ht]
    exact ⟨rfl, rfl⟩
  · rw [hc, action, hx]
    cases cond with
    | both t u => exact absurd rfl (hnot t u)
    | query predicate => exact ⟨rfl, rfl⟩
    | produced glyph => exact ⟨rfl, rfl⟩
    | similar source u => exact ⟨rfl, rfl⟩

/-- The watcher of what a known edge asks for suits the edge, once it is fit. -/
theorem suits_watcher {x : Plan.Context} {resolver : Resolver} {s : Store}
    {upstream : String → Option Antecedent} {k : KnownEdge} {cond : Condition}
    (hid : Naming.isSegment x.composition = true) (hk : k.edge.known? resolver = some k)
    (h : k.condition? s upstream = some cond) (hfit : (cond.watcher x k).defect? = none) :
    k.Suits x.composition (cond.watcher x k) where
  fit := hfit
  id := Condition.watcher_id x k cond
  enabled := Condition.watcher_enabled x k cond
  edge := by
    rw [Rule.edge?, (payload_watcher h).1]
    exact EdgeAction.ofPayload?_toPayload (isComplete_action hid hk)
  compound := (payload_watcher h).2
  ungated := by cases cond <;> exact ⟨rfl, rfl⟩

/-- Being fit and under the same id, a watcher with the same rule, thresholds aside, suits the edge,
too. -/
theorem Suits.of_alike {composition : String} {k : KnownEdge} {v w : Watcher}
    (h : k.Suits composition w) (hfit : v.defect? = none) (hid : v.id = w.id)
    (hrule : v.rule.Alike w.rule) : k.Suits composition v where
  fit := hfit
  id := hid.trans h.id
  enabled := hrule.enabled.trans h.enabled
  edge := by rw [Rule.edge?, hrule.payload, ← Rule.edge?, h.edge]
  compound := by
    rw [← h.compound, Rule.isCompound, Rule.isCompound, hrule.action,
      isSome_eq_of_optionRel hrule.antecedent]
  ungated := hrule.filter ▸ h.ungated

end KnownEdge

/-! ### What becomes of them -/

namespace ActiveSet

/-- What the watcher of an edge suppresses is the standalone watcher of the glyph that it covers. -/
theorem suppressed_delete {s : Store} (hs : s.Sound) {c source target : String} {w : Watcher}
    (hid : w.id = Naming.edgeWatcher c source target)
    (hrow : s.watchers.get? w.id = some (.intact w)) {id : String}
    (h : id ∈ (ofStore s).suppressed.toList) :
    id ∈ (ofStore (s.delete w.id)).suppressed.toList ∨
      ∃ g ∈ w.covers?, id = Naming.semanticWatcher g := by
  have hs' : (s.delete w.id).Sound := hs.apply (.delete w.id)
  have hother : ∀ v : Watcher, s.watchers.get? v.id = some (.intact v) → v.id ≠ w.id →
      (s.delete w.id).watchers.get? v.id = some (.intact v) := by
    intro v hv hne
    rw [Store.delete, Table.get?_erase, if_neg (Ne.symm hne), hv]
  obtain ⟨v, hv, hhidden, rfl⟩ := (mem_suppressed_ofStore hs).1 h
  obtain ⟨hplain, g, hg, -⟩ := hidden_iff.1 hhidden
  rw [hg, standalone_suppressed_iff hs] at h
  obtain ⟨u, hu⟩ := List.exists_mem_of_ne_nil _ h.2
  obtain ⟨hurow, hon, hcovers⟩ := (Store.mem_compoundsFor hs).1 hu
  by_cases huw : u.id = w.id
  · -- the watcher itself covers the glyph
    rw [huw, hrow] at hurow
    obtain rfl := Row.intact.inj (Option.some.inj hurow)
    exact .inr ⟨g, hcovers, hg⟩
  · refine .inl ?_
    rw [hg, standalone_suppressed_iff hs']
    obtain ⟨hvrow, hvon⟩ := (Store.mem_list hs).1 hv
    have hne : v.id ≠ w.id := by
      rw [hg, hid]
      exact Ne.symm (Naming.edgeWatcher_ne_semanticWatcher c source target g)
    refine ⟨⟨v, (Store.mem_list hs').2 ⟨hother v hvrow hne, hvon⟩, hg, hplain⟩, ?_⟩
    exact List.ne_nil_of_mem ((Store.mem_compoundsFor hs').2 ⟨hother u hurow huw, hon, hcovers⟩)

end ActiveSet

namespace KnownEdge

/-- The coordinates in the payload are those under which the cursor is written and read. -/
theorem Suits.resumes {composition : String} {k : KnownEdge} {w : Watcher}
    (h : k.Suits composition w) (s : Store) (a : Attestation) : ∃ written read,
      System.cursorAfter? ⟨ActiveSet.seeded s w, a⟩ = some written ∧
      written.OfEdge composition k.edge.source k.edge.target ∧ written.lastAt = a.timestamp ∧
      ActiveSet.seeded (s.upsertCursor written) w = ActiveSet.gate w read.lastAt ∧
      (read = written ∨ a.timestamp.Before read.lastAt ∧
        s.cursor? composition k.edge.source k.edge.target = some read) := by
  let written : Cursor := ⟨composition, k.edge.source, k.edge.target, a.id, a.timestamp⟩
  have hwritten : System.cursorAfter? ⟨ActiveSet.seeded s w, a⟩ = some written := by
    rw [System.cursorAfter?, ActiveSet.seeded_edge?, h.edge]
    rfl
  have hedge : written.OfEdge composition k.edge.source k.edge.target := ⟨rfl, rfl, rfl⟩
  have hseeded : ∀ read, (s.upsertCursor written).cursor? composition k.edge.source k.edge.target =
      some read → ActiveSet.seeded (s.upsertCursor written) w = ActiveSet.gate w read.lastAt := by
    intro read hread
    rw [ActiveSet.seeded, h.edge]
    simp only [action, hread]
  have hread := Store.cursor?_upsertCursor (s := s) hedge
  split at hread
  · exact ⟨written, written, hwritten, hedge, rfl, hseeded _ hread, .inl rfl⟩
  · next hlater =>
    obtain ⟨old, hold, hbefore⟩ : ∃ old ∈ s.cursor? composition k.edge.source k.edge.target,
        written.lastAt.Before old.lastAt := by
      simpa using hlater
    exact ⟨written, old, hwritten, hedge, rfl, hseeded _ (hread.trans hold), .inr ⟨hbefore, hold⟩⟩

/-- A watcher that suits an edge covers its target if both glyphs are semantic, and else nothing. -/
theorem Suits.covers? {composition : String} {k : KnownEdge} {w : Watcher}
    (h : k.Suits composition w) :
    w.covers? = if k.isCompound then some k.edge.target else none := by
  rw [Watcher.covers?, h.compound, h.edge]
  rfl

theorem Suits.serves {composition : String} {k : KnownEdge} {w : Watcher}
    (h : k.Suits composition w) : k.Serves composition w where
  resumes := h.resumes
  suppresses := by
    intro s hs hrow id hin
    rcases ActiveSet.suppressed_delete hs h.id hrow hin with hstill | ⟨g, hg, rfl⟩
    · exact .inl hstill
    · rw [h.covers?] at hg
      cases hc : k.isCompound with
      | true =>
        rw [hc, if_pos rfl] at hg
        exact .inr ⟨rfl, congrArg Naming.semanticWatcher (Option.some.inj hg).symm⟩
      | false =>
        rw [hc] at hg
        cases hg

end KnownEdge

/-! ### Faults -/

namespace Traced

variable {α β : Type} {P : StoreFault → Prop}

/-- If the computation fails, then with a fault of this sort. -/
def Blames (P : StoreFault → Prop) (x : Traced α) : Prop := ∀ f, x.result = .error f → P f

theorem blames_of_works {x : Traced α} (h : Works x) : Blames P x := by
  obtain ⟨v, hv⟩ := h
  intro f hf
  rw [hv] at hf
  cases hf

theorem blames_pure (a : α) : Blames P (pure a : Traced α) := blames_of_works (works_pure a)

theorem blames_bind {x : Traced α} {f : α → Traced β} (h : Blames P x)
    (hf : ∀ a, Blames P (f a)) : Blames P (x >>= f) := by
  intro e he
  rw [result_bind] at he
  cases hx : x.result with
  | error e' =>
    rw [hx] at he
    obtain rfl := Except.error.inj he
    exact h e' hx
  | ok a =>
    rw [hx] at he
    exact hf a e he

end Traced

/-- Faults of the store itself: of its outage, or of a row that cannot be decoded. -/
def Access.Faulty (a : Access) (f : StoreFault) : Prop :=
  f = .undecodable ∨ ∃ call, a.outage call = some f

namespace Plan

variable {a : Access} {x : Context}

theorem blames_attempt {α : Type} {call : StoreCall} {act : Traced α} (h : Blames a.Faulty act) :
    Blames a.Faulty (a.attempt call act) := by
  unfold Access.attempt
  cases ho : a.outage call with
  | none => exact h
  | some f =>
    intro f' hf'
    obtain rfl := Except.error.inj hf'
    exact .inr ⟨call, ho⟩

theorem blames_get? (id : String) : Blames a.Faulty (a.get? id) := by
  refine blames_attempt fun f hf => ?_
  rw [result_lift, Store.get?] at hf
  split at hf
  · cases hf
  · obtain rfl := Except.error.inj hf
    exact .inl rfl
  · cases hf

theorem blames_standaloneSimilarity (glyph : String) :
    Blames a.Faulty (standaloneSimilarity a glyph) :=
  blames_bind (blames_get? _) fun _ => blames_pure _

theorem blames_standaloneQuery (glyph : String) : Blames a.Faulty (standaloneQuery a glyph) :=
  blames_bind (blames_get? _) fun _ => blames_pure _

theorem blames_antecedentFor (c : String) (compounds : Compounds) (glyph : String) :
    Blames a.Faulty (antecedentFor a c compounds glyph) := by
  unfold antecedentFor
  cases compounds.get? glyph with
  | some u => exact blames_pure _
  | none => exact blames_bind (blames_attempt (blames_of_works ⟨_, rfl⟩)) fun _ => blames_pure _

theorem blames_resolveCompound (e : KnownEdge) : Blames a.Faulty (resolveCompound a x e) := by
  refine blames_bind (blames_standaloneSimilarity _) fun source => ?_
  cases source with
  | none => exact blames_pure _
  | some source =>
    refine blames_bind (blames_standaloneSimilarity _) fun target => ?_
    cases target <;> exact blames_pure _

theorem blames_resolveOther (compounds : Compounds) (e : KnownEdge) :
    Blames a.Faulty (resolveOther a x compounds e) := by
  unfold resolveOther
  split
  · exact blames_pure _
  split
  · exact blames_pure _
  cases e.sourceKind with
  | query =>
    refine blames_bind (blames_standaloneQuery _) fun query => ?_
    cases query <;> exact blames_pure _
  | semantic =>
    refine blames_bind (blames_standaloneSimilarity _) fun similarity => ?_
    cases similarity with
    | none => exact blames_pure _
    | some similarity => exact blames_bind (blames_antecedentFor _ _ _) fun _ => blames_pure _
  | python | prompt => exact blames_pure _
  | ingest | note | document | subCanvas | attestationDisplay | other => exact blames_pure _

/-- Nothing but the store makes planning fail. -/
theorem blames_make (resolver : Resolver) (c : Composition) :
    Blames a.Faulty (make a resolver x c) := by
  refine blames_bind (blames_of_works ⟨_, rfl⟩) fun _ =>
    blames_bind (blames_of_works ⟨_, result_examineAll ..⟩) fun found => ?_
  refine blames_bind (foldlM_of_bind blames_pure blames_bind _ (fun o e => ?_) _) fun o => ?_
  · exact blames_bind (blames_resolveCompound e) fun r => blames_of_works (works_add o e r)
  refine blames_bind (foldlM_of_bind blames_pure blames_bind _ (fun o e => ?_) _) fun o => blames_pure _
  exact blames_bind (blames_resolveOther _ e) fun r => blames_of_works (works_add o e r)

/-- Every planned watcher suits an edge of the composition. -/
theorem make_suits {resolver : Resolver} {config : CompilerConfig} {now : Moment} {c : Composition}
    {plan : Plan} (hid : Naming.isSegment c.id = true)
    (hplan : (make a resolver ⟨c.id, config, now⟩ c).result = .ok plan) {id : String} {w : Watcher}
    (hw : plan.desired.get? id = some w) : ∃ k ∈ c.known resolver, k.Suits c.id w := by
  obtain ⟨-, hfresh⟩ := make_fresh resolver c plan hplan id w hw
  rw [make_rows resolver rfl plan hplan] at hw
  obtain ⟨k, hk, cond, hcond, -, rfl⟩ := mem_rows_iff.1 (Table.mem_of_get?_ofList hw)
  have hsuits := KnownEdge.suits_watcher (x := ⟨c.id, config, now⟩) hid (mem_known.1 hk).2 hcond
    hfresh.fit
  exact ⟨k, hk, hsuits⟩

end Plan

namespace Commit

variable {o : Outage}

/-- The failure that ends a commit is that of one of its writes. -/
theorem exists_of_fault (ws : List Write) {c : Commit} (hc : c.fault = none) {f : StoreFault}
    (h : (ws.foldl (step o) c).fault = some f) :
    ∃ w ∈ ws, (o w.call).or w.fault? = some f := by
  induction ws generalizing c with
  | nil =>
    rw [List.foldl_nil, hc] at h
    cases h
  | cons w ws ih =>
    rw [List.foldl_cons] at h
    cases hw : (o w.call).or w.fault? with
    | some g =>
      obtain ⟨hg, -⟩ := step_of_fault hc hw
      rw [foldl_step_of_fault hg, hg] at h
      exact ⟨w, List.mem_cons_self, hw.trans h⟩
    | none =>
      obtain ⟨hnone, -⟩ := step_of_works hc hw
      obtain ⟨v, hv, hf⟩ := ih hnone h
      exact ⟨v, List.mem_cons_of_mem _ hv, hf⟩

end Commit

namespace System

variable {s s' : System} {outage : Outage} {resolver : Resolver} {config : CompilerConfig}
  {now : Moment} {c : Composition}

/-- A compilation fails only where the store does: no planned watcher is refused. -/
theorem compile_faulty {f : StoreFault}
    (h : (s.compile outage resolver config now c).2 = .error (.store f)) :
    (s.access outage).Faulty f := by
  unfold compile at h
  split at h
  · cases h
  dsimp only at h
  cases hp : (s.prepare outage resolver ⟨c.id, config, now⟩ c).result with
  | error g =>
    rw [hp] at h
    obtain rfl : g = f := Fault.store.inj (Except.error.inj h)
    have hprepare : Blames (s.access outage).Faulty
        (s.prepare outage resolver ⟨c.id, config, now⟩ c) :=
      blames_bind (Plan.blames_attempt (blames_of_works ⟨_, rfl⟩)) fun _ =>
        blames_bind (Plan.blames_make _ _) fun _ =>
          blames_bind (blames_of_works ⟨_, rfl⟩) fun _ => blames_pure _
    exact hprepare g hp
  | ok found =>
    obtain ⟨existing, plan⟩ := found
    obtain ⟨-, rfl, hplan⟩ := prepare_eq_ok.1 hp
    have hfresh := Plan.make_fresh resolver c plan hplan
    rw [hp] at h
    simp only [note] at h
    split at h
    · next g hfault =>
      obtain rfl : g = f := Fault.store.inj (Except.error.inj h)
      obtain ⟨w, hw, hfails⟩ := Commit.exists_of_fault _ rfl hfault
      rw [Write.fault?_of_mem_plan hfresh.owned (fun k v hv => (hfresh k v hv).2.fit) hw,
        Option.or_none] at hfails
      exact .inr ⟨_, hfails⟩
    · cases h

/-- Every watcher that is planned for a composition is well formed, so no compilation fails because
one is refused, and so are all watchers that a compilation leaves under the stem. -/
theorem compiled_well_formed (s : System) (outage : Outage) (resolver : Resolver)
    (config : CompilerConfig) (now : Moment) (hid : Naming.isSegment c.id = true)
    (ho : ∀ call id reason, outage call ≠ some (.invalidWatcher id reason)) :
    (∀ plan, (Plan.make (s.access outage) resolver ⟨c.id, config, now⟩ c).result = .ok plan →
      ∀ id w, plan.desired.get? id = some w → w.id = id ∧
        ∃ k ∈ c.known resolver, k.Suits c.id w ∧ k.Serves c.id w) ∧
    (∀ id reason, (s.compile outage resolver config now c).2 ≠
      .error (.store (.invalidWatcher id reason))) ∧
    (s.store.Reachable → ∀ s' r, s.compile outage resolver config now c = (s', .ok r) →
      ∀ v ∈ s'.store.listByStem (Naming.edgeStem c.id),
        ∃ k ∈ c.known resolver, k.Suits c.id v ∧ k.Serves c.id v) := by
  refine ⟨fun plan hplan id w hw => ?_, fun id reason h => ?_, fun hs s' r h v hv => ?_⟩
  · obtain ⟨k, hk, hsuits⟩ := Plan.make_suits hid hplan hw
    exact ⟨(Plan.make_fresh resolver c plan hplan id w hw).1, k, hk, hsuits, hsuits.serves⟩
  · rcases compile_faulty h with hdecode | ⟨call, hcall⟩
    · cases hdecode
    · exact ho call id reason hcall
  · obtain ⟨-, plan, hplan, hl⟩ := compile_leaves hs h
    obtain ⟨hrow, hstem⟩ := (Store.mem_listByStem hl.sound).1 hv
    obtain ⟨w, hw⟩ := hl.planned hrow hstem
    obtain ⟨v', hrow', hrule⟩ := hl.left hw
    obtain rfl := Row.intact.inj (Option.some.inj (hrow.symm.trans hrow'))
    obtain ⟨k, hk, hsuits⟩ := Plan.make_suits hid hplan hw
    have hown := hsuits.of_alike (hl.sound.watcher hrow).2 (hl.owned hw).1.symm
      (.of_eq_or_same hrule)
    exact ⟨k, hk, hown, hown.serves⟩

/-- In the chain of two semantic glyphs and one that runs, one watcher of each sort is left. -/
theorem sample_well_formed : ∃ s' r,
    Sample.pair.compile .none Sample.resolver .default default Sample.chain = (s', .ok r) ∧
    (s'.store.listByStem (Naming.edgeStem "c")).map (fun v => (v.id, v.rule.isCompound)) =
      [("meld-edge/c/a/b", true), ("meld-edge/c/b/p", false)] ∧
    ∀ v ∈ s'.store.listByStem (Naming.edgeStem "c"),
      ∃ k ∈ Sample.chain.known Sample.resolver, k.Suits "c" v ∧ k.Serves "c" v := by
  have hs : Sample.pair.store.Reachable := ⟨_, rfl⟩
  obtain ⟨s', r, h⟩ := exists_of_isOk (x := Sample.pair.compile .none Sample.resolver .default
    default Sample.chain) (by decide +kernel)
  have hlisted : ((Sample.pair.compile .none Sample.resolver .default default
      Sample.chain).1.store.listByStem (Naming.edgeStem "c")).map
        (fun v => (v.id, v.rule.isCompound)) =
      [("meld-edge/c/a/b", true), ("meld-edge/c/b/p", false)] := by decide +kernel
  rw [h] at hlisted
  have hformed := compiled_well_formed (c := Sample.chain) Sample.pair .none Sample.resolver .default
    default (by decide) (fun _ _ _ => nofun)
  exact ⟨s', r, h, hlisted, hformed.2.2 hs s' r h⟩

end System

end Watchtower
