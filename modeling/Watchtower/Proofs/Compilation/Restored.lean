import Mathlib.Tactic.Common
import Watchtower.Proofs.Compilation.RoundTrip

/-!
Glyphs that a compilation reports as restored.

A compilation predicts from its own rows alone which glyphs its compound watchers cover no longer.
Which standalone watchers come back is decided afterwards, by a reload that looks at the whole store.
The prediction is therefore right about every glyph but those that compound watchers of other
compositions cover as well, and it misses no watcher that comes back (`System.restored_iff`).
-/

namespace Watchtower

open Traced

/-! ### What is covered -/

namespace Watcher

/-- What a watcher covers is a matter of its rule, thresholds aside. -/
theorem covers?_of_alike {v w : Watcher} (h : v.rule.Alike w.rule) : v.covers? = w.covers? := by
  unfold covers? Rule.isCompound Rule.edge?
  rw [h.action, isSome_eq_of_optionRel h.antecedent, h.payload]

end Watcher

namespace Store

variable {s : Store} {composition glyph : String}

/-- An enabled compound watcher outside the composition covers the glyph. -/
def CoveredElsewhere (s : Store) (composition glyph : String) : Prop :=
  ∃ v ∈ s.compoundsFor glyph, Naming.startsWith v.id (Naming.edgeStem composition) = false

instance : Decidable (s.CoveredElsewhere composition glyph) :=
  inferInstanceAs (Decidable (∃ v ∈ s.compoundsFor glyph, _))

theorem mem_compoundsFor (hs : s.Sound) {v : Watcher} : v ∈ s.compoundsFor glyph ↔
    s.watchers.get? v.id = some (.intact v) ∧ v.rule.enabled = true ∧ v.covers? = some glyph := by
  simp only [compoundsFor, mem_scan hs, Bool.and_eq_true, beq_iff_eq]

/-- A compound watcher is one of the composition or is elsewhere. -/
theorem compoundsFor_cases (hs : s.Sound) (h : s.compoundsFor glyph ≠ []) :
    (∃ v ∈ s.listByStem (Naming.edgeStem composition), v.covers? = some glyph) ∨
      s.CoveredElsewhere composition glyph := by
  obtain ⟨v, hv⟩ := List.exists_mem_of_ne_nil _ h
  cases hstem : Naming.startsWith v.id (Naming.edgeStem composition) with
  | true =>
    obtain ⟨hrow, -, hcovers⟩ := (mem_compoundsFor hs).1 hv
    exact .inl ⟨v, (mem_listByStem hs).2 ⟨hrow, hstem⟩, hcovers⟩
  | false => exact .inr ⟨v, hv, hstem⟩

end Store

theorem Labels.mem_ofList {xs : List String} {x : String} : x ∈ (ofList xs).toList ↔ x ∈ xs := by
  have hagree : ∀ r ∈ xs.map fun x => (x, ()), ∀ t ∈ xs.map fun x => (x, ()), r.1 = t.1 → r = t :=
    fun r _ t _ he => Prod.ext he rfl
  simp only [toList, ofList, Table.mem_keys, Table.get?_ofList_of_agree hagree]
  simp

theorem mem_restoredTargets {existing desired : List Watcher} {g : String} :
    g ∈ restoredTargets existing desired ↔
      (∃ v ∈ existing, v.covers? = some g) ∧ ∀ w ∈ desired, w.covers? ≠ some g := by
  simp [restoredTargets, Labels.mem_ofList]

/-- Every planned watcher is enabled. -/
theorem Plan.make_enabled {a : Access} {x : Plan.Context} (resolver : Resolver) {c : Composition}
    (hx : x.composition = c.id) :
    Ensures (fun p => ∀ {k w}, p.desired.get? k = some w → w.rule.enabled = true)
      (Plan.make a resolver x c) := by
  intro p hp k w hw
  rw [make_rows resolver hx p hp] at hw
  obtain ⟨e, -, cond, -, -, rfl⟩ := mem_rows_iff.1 (Table.mem_of_get?_ofList hw)
  exact Condition.watcher_enabled x e cond

namespace ActiveSet

variable {s : Store} {glyph : String}

/-- The standalone watcher of a glyph is suppressed if it is stored and enabled and the store finds a
compound watcher for the glyph. -/
theorem standalone_suppressed_iff (hs : s.Sound) :
    Naming.semanticWatcher glyph ∈ (ofStore s).suppressed.toList ↔
      (∃ w ∈ s.list false, w.id = Naming.semanticWatcher glyph ∧ w.rule.isCompound = false) ∧
        s.compoundsFor glyph ≠ [] := by
  rw [mem_suppressed_ofStore hs]
  constructor
  · rintro ⟨w, hw, hh, hid⟩
    obtain ⟨hplain, g, hg, hcovered⟩ := hidden_iff.1 hh
    obtain rfl := Naming.semanticWatcher_inj (hid.symm.trans hg)
    exact ⟨⟨w, hw, hid, hplain⟩, (Store.mem_covered hs).1 hcovered⟩
  · rintro ⟨⟨w, hw, hid, hplain⟩, hcovered⟩
    exact ⟨w, hw, hidden_iff.2 ⟨hplain, glyph, hid, (Store.mem_covered hs).2 hcovered⟩, hid⟩

/-- Whatever is stored and enabled is active unless it is suppressed. -/
theorem active_iff (hs : s.Sound) {id : String} : id ∈ (ofStore s).watchers.keys ↔
    (∃ w ∈ s.list false, w.id = id) ∧ id ∉ (ofStore s).suppressed.toList := by
  have hparts := partitions_ofStore hs
  rw [← hparts.all id]
  constructor
  · intro hactive
    exact ⟨.inl hactive, hparts.apart id hactive⟩
  · rintro ⟨hactive | hsuppressed, hnot⟩
    · exact hactive
    · exact absurd hsuppressed hnot

end ActiveSet

namespace System

variable {s t : System} {outage : Outage} {resolver : Resolver} {config : CompilerConfig}
  {now : Moment} {c : Composition} {plan : Plan} {r : Compiled}

/-- After a compilation the store finds compound watchers for the glyphs that planned watchers cover
and for those that are covered elsewhere. -/
theorem Leaves.compoundsFor_ne_nil (hs : s.store.Sound) (hl : Leaves s t c plan)
    (hon : ∀ {k w}, plan.desired.get? k = some w → w.rule.enabled = true) (glyph : String) :
    t.store.compoundsFor glyph ≠ [] ↔ (∃ w ∈ plan.desired.values, w.covers? = some glyph) ∨
      s.store.CoveredElsewhere c.id glyph := by
  constructor
  · intro h
    obtain ⟨v, hv⟩ := List.exists_mem_of_ne_nil _ h
    obtain ⟨hrow, henabled, hcovers⟩ := (Store.mem_compoundsFor hl.sound).1 hv
    cases hstem : Naming.startsWith v.id (Naming.edgeStem c.id) with
    | true =>
      obtain ⟨w, hw⟩ := hl.planned hrow hstem
      obtain ⟨v', hrow', hrule⟩ := hl.left hw
      obtain rfl := Row.intact.inj (Option.some.inj (hrow.symm.trans hrow'))
      exact .inl ⟨w, Table.mem_values.2 ⟨_, hw⟩,
        (Watcher.covers?_of_alike (.of_eq_or_same hrule)).symm.trans hcovers⟩
    | false =>
      rw [hl.outside hstem] at hrow
      exact .inr ⟨v, (Store.mem_compoundsFor hs).2 ⟨hrow, henabled, hcovers⟩, hstem⟩
  · rintro (⟨w, hw, hcovers⟩ | ⟨v, hv, hstem⟩)
    · obtain ⟨k, hk⟩ := Table.mem_values.1 hw
      obtain ⟨v, hrow, hrule⟩ := hl.left hk
      obtain ⟨hid, -⟩ := hl.sound.watcher hrow
      have halike : v.rule.Alike w.rule := .of_eq_or_same hrule
      refine List.ne_nil_of_mem ((Store.mem_compoundsFor hl.sound).2 ⟨hid ▸ hrow, ?_, ?_⟩)
      · rw [halike.enabled, hon hk]
      · rw [Watcher.covers?_of_alike halike, hcovers]
    · obtain ⟨hrow, hrest⟩ := (Store.mem_compoundsFor hs).1 hv
      rw [← hl.outside hstem] at hrow
      exact List.ne_nil_of_mem ((Store.mem_compoundsFor hl.sound).2 ⟨hrow, hrest⟩)

/-- What a compilation plans, leaves and reports as restored. -/
theorem compile_restored (hs : s.store.Reachable)
    (h : s.compile outage resolver config now c = (t, .ok r)) :
    ∃ plan, Leaves s t c plan ∧
      (∀ {k w}, plan.desired.get? k = some w → w.rule.enabled = true) ∧
      r.report.restored =
        restoredTargets (s.store.listByStem (Naming.edgeStem c.id)) plan.desired.values := by
  obtain ⟨-, plan, hplan, hl⟩ := compile_leaves hs h
  obtain ⟨-, plan', commit, hplan', -, -, u, hreport, -⟩ := compile_commits h
  obtain rfl := Except.ok.inj (hplan.symm.trans hplan')
  refine ⟨plan, hl, fun hw => Plan.make_enabled resolver rfl plan hplan hw, ?_⟩
  rw [hreport]
  rcases u.reloadIfChanged_report outage _ with he | he <;> rw [he] <;> rfl

/-- If a compilation has reloaded, the standalone watcher of a glyph that it reports as restored is
suppressed exactly if it is there to be suppressed and another composition covers the glyph; if it
is there at all and not suppressed, it is active. Of an engine that was up to date no standalone
watcher comes back whose glyph is not reported. -/
theorem restored_iff (hs : s.store.Reachable)
    (h : s.compile outage resolver config now c = (t, .ok r)) (hr : r.report.reloaded = true) :
    (∀ g ∈ r.report.restored,
      (Naming.semanticWatcher g ∈ t.engine.active.suppressed.toList ↔
        (∃ w ∈ t.store.list false, w.id = Naming.semanticWatcher g ∧ w.rule.isCompound = false) ∧
          s.store.CoveredElsewhere c.id g) ∧
      (Naming.semanticWatcher g ∈ t.engine.active.watchers.keys ↔
        (∃ w ∈ t.store.list false, w.id = Naming.semanticWatcher g) ∧
          Naming.semanticWatcher g ∉ t.engine.active.suppressed.toList)) ∧
    (s.UpToDate → ∀ g, Naming.semanticWatcher g ∈ s.engine.active.suppressed.toList →
      Naming.semanticWatcher g ∈ t.engine.active.watchers.keys → g ∈ r.report.restored) := by
  obtain ⟨plan, hl, hon, hrestored⟩ := compile_restored hs h
  have hcompounds := hl.compoundsFor_ne_nil hs.sound hon
  rw [active_of_reloaded h hr, hrestored]
  refine ⟨fun g hg => ⟨?_, ActiveSet.active_iff hl.sound⟩, fun hfresh g hbefore hafter => ?_⟩
  · obtain ⟨-, hnot⟩ := mem_restoredTargets.1 hg
    rw [ActiveSet.standalone_suppressed_iff hl.sound, hcompounds]
    refine and_congr_right fun _ => or_iff_right ?_
    rintro ⟨w, hw, hcovers⟩
    exact hnot w hw hcovers
  · rw [upToDate_iff.1 hfresh, ActiveSet.standalone_suppressed_iff hs.sound] at hbefore
    obtain ⟨⟨w, hw, hid, hplain⟩, hcovered⟩ := hbefore
    obtain ⟨⟨v, hv, hvid⟩, hshown⟩ := (ActiveSet.active_iff hl.sound).1 hafter
    -- the standalone watcher is none of the composition, so it is the same as before
    have hrow := ((Store.mem_list hl.sound).1 hv).1
    rw [hvid, hl.outside (Naming.not_startsWith_semanticWatcher g c.id), ← hid,
      ((Store.mem_list hs.sound).1 hw).1] at hrow
    obtain rfl := Row.intact.inj (Option.some.inj hrow)
    have huncovered : ¬ t.store.compoundsFor g ≠ [] := fun hc =>
      hshown ((ActiveSet.standalone_suppressed_iff hl.sound).2 ⟨⟨w, hv, hid, hplain⟩, hc⟩)
    rw [hcompounds, not_or] at huncovered
    obtain ⟨hplanned, helsewhere⟩ := huncovered
    exact mem_restoredTargets.2 ⟨(Store.compoundsFor_cases hs.sound hcovered).resolve_right
      helsewhere, fun w hw hcovers => hplanned ⟨w, hw, hcovers⟩⟩

end System

/-! An edge between two semantic glyphs, of one composition or of two, that is taken out of the
first. -/

namespace Sample

/-- The edge is in one composition. -/
def linkedOnce : System := (pair.compile .none resolver .default default link).1

/-- The edge is in another composition as well. -/
def linkedTwice : System :=
  (linkedOnce.compile .none resolver .default default { link with id := "e" }).1

/-- The first composition without its edge. -/
def unlinked (s : System) : System × Except Fault Compiled :=
  s.compile .none resolver .default default ⟨"c", []⟩

theorem reachable_linkedOnce : linkedOnce.store.Reachable := by
  have hpair : pair.store.Reachable := ⟨_, rfl⟩
  rw [linkedOnce]
  exact System.reachable_compile hpair ..

theorem reachable_linkedTwice : linkedTwice.store.Reachable := by
  rw [linkedTwice]
  exact System.reachable_compile reachable_linkedOnce ..

theorem unlinked_report {s : System}
    (h : (unlinked s).2.toOption.map (fun r => (r.report.restored, r.report.reloaded)) =
      some (["b"], true)) :
    ∃ t r, unlinked s = (t, .ok r) ∧ r.report.restored = ["b"] ∧ r.report.reloaded = true := by
  rcases hs : unlinked s with ⟨t, f | r⟩
  · rw [hs] at h
    cases h
  · rw [hs] at h
    exact ⟨t, r, rfl, Prod.mk.inj (Option.some.inj h)⟩

end Sample

namespace System

/-- Where only the first composition has the edge, the standalone watcher of its target is reported
and comes back. -/
theorem sample_restored : ∃ t r, Sample.unlinked Sample.linkedOnce = (t, .ok r) ∧
    r.report.reloaded = true ∧ r.report.restored = ["b"] ∧
    "se-glyph-b" ∈ Sample.linkedOnce.engine.active.suppressed.toList ∧
    "se-glyph-b" ∈ t.engine.active.watchers.keys := by
  obtain ⟨t, r, h, hrestored, hreloaded⟩ :=
    Sample.unlinked_report (s := Sample.linkedOnce) (by decide +kernel)
  have hthere : ∃ w ∈ (Sample.unlinked Sample.linkedOnce).1.store.list false,
      w.id = Naming.semanticWatcher "b" := by decide +kernel
  rw [h] at hthere
  have hfree : ¬ Sample.linkedOnce.store.CoveredElsewhere "c" "b" := by decide +kernel
  obtain ⟨hsuppressed, hactive⟩ :=
    (restored_iff Sample.reachable_linkedOnce h hreloaded).1 "b" (hrestored ▸ List.mem_cons_self)
  refine ⟨t, r, h, hreloaded, hrestored, by decide +kernel, hactive.2 ⟨hthere, fun hin => ?_⟩⟩
  exact hfree (hsuppressed.1 hin).2

/-- Not every glyph that a compilation reports as restored has its standalone watcher back: where the
other composition still has the edge, the watcher of its target stays suppressed. -/
theorem not_restored : ¬ ∀ (s t : System) (outage : Outage) (resolver : Resolver)
    (config : CompilerConfig) (now : Moment) (c : Composition) (r : Compiled), s.store.Reachable →
    s.compile outage resolver config now c = (t, .ok r) → r.report.reloaded = true →
    ∀ g ∈ r.report.restored,
      Naming.semanticWatcher g ∉ t.engine.active.suppressed.toList := by
  intro hall
  obtain ⟨t, r, h, hrestored, hreloaded⟩ :=
    Sample.unlinked_report (s := Sample.linkedTwice) (by decide +kernel)
  have hstill : Naming.semanticWatcher "b" ∈
      (Sample.unlinked Sample.linkedTwice).1.engine.active.suppressed.toList := by decide +kernel
  rw [h] at hstill
  exact hall _ t _ _ _ _ _ r Sample.reachable_linkedTwice h hreloaded "b"
    (hrestored ▸ List.mem_cons_self) hstill

end System

end Watchtower
