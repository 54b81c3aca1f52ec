import Mathlib.Tactic.Common
import Watchtower.Proofs.Compilation.Watchers
import Watchtower.Proofs.Run.Replay

/-!
What a clean-up clears.

Compiled watchers are under the stem of their composition, and there they stay
(`System.confines_run`), so a clean-up that removes what is under the stem and reloads leaves none of
them in the store and none active (`System.Clears.isClearOf`). Two things alone bring one back: the
composition is compiled, or somebody stores a watcher of it. As long as neither happens, every move
keeps the store and the active set clear of the composition (`System.isClearOf_run`).
-/

namespace Watchtower

/-! ### What belongs to a composition -/

namespace Cursor

/-- The cursor under the key is found when the composition is asked for it. -/
def IsKeyOf (composition key : String) : Prop :=
  ∃ source target, keyOf composition source target = key

theorem startsWith_of_isKeyOf {composition key : String} (h : IsKeyOf composition key) :
    Naming.startsWith key (stem composition) = true := by
  obtain ⟨source, target, rfl⟩ := h
  rw [keyOf, String.append_assoc, String.append_assoc]
  exact Naming.startsWith_append _ _

/-- As long as ids do without the separator of keys, the keys of a composition are those of its own
edges. -/
theorem isKeyOf_keyOf_iff {composition c source target : String}
    (hcomposition : separator ∉ composition.toList) (hc : separator ∉ c.toList) :
    IsKeyOf composition (keyOf c source target) ↔ c = composition := by
  refine ⟨fun h => (startsWith_stem_iff hcomposition hc).1 (startsWith_of_isKeyOf h), ?_⟩
  rintro rfl
  exact ⟨source, target, rfl⟩

end Cursor

/-- The watcher belongs to an edge whose cursor is found when the composition is asked for it. -/
def Watcher.IsOf (w : Watcher) (composition : String) : Prop :=
  ∃ key, Cursor.IsKeyOf composition key ∧ w.Follows key

theorem Watcher.isOf_congr {v w : Watcher} {composition : String}
    (h : v.rule.edge? = w.rule.edge?) : v.IsOf composition ↔ w.IsOf composition := by
  simp only [IsOf, Follows, h]

/-! ### Changes of the store -/

/-- The watcher that a change stores, if it stores one. -/
def StoreChange.watcher? : StoreChange → Option Watcher
  | .create w | .createOrReplace w | .update w => some w
  | _ => none

/-- What a planned write stores is the watcher of an edge of the composition, under its stem. -/
theorem Write.IsPlanned.origin {resolver : Resolver} {config : CompilerConfig} {now : Moment}
    {c : Composition} {u : Write} (h : u.IsPlanned resolver config now c) {v : Watcher}
    (hv : u.change.watcher? = some v) : (∃ e, v.rule.edge? = some e ∧ e.composition = c.id) ∧
      Naming.startsWith v.id (Naming.edgeStem c.id) = true := by
  obtain ⟨hid, a, existing, plan, hplan, hmem⟩ := h
  have howned : Plan.Owned c.id plan.desired := (Plan.make_fresh resolver c plan hplan).owned
  rcases (mem_plan howned).1 hmem with ⟨k, -, rfl⟩ | ⟨d, hd, hof⟩
  · cases hv
  · obtain ⟨v', hrow, -, hsameId, hrule⟩ := of?_spec hof
    obtain ⟨k, -, hsuits⟩ := Plan.make_suits hid hplan hd
    obtain ⟨hkey, hstem⟩ := howned hd
    obtain rfl : v' = v := by
      cases u with
      | remove id => cases hv
      | replace w | create w =>
        exact (Row.intact.inj (Option.some.inj hrow)).symm.trans (Option.some.inj hv)
    exact ⟨⟨k.action c.id, by rw [hrule, hsuits.edge], rfl⟩, by rwa [hsameId, hkey]⟩

namespace Store

/-- The intact watchers of the composition are all under such keys. -/
def Confines (s : Store) (composition : String) (Q : String → Prop) : Prop :=
  ∀ k w, s.watchers.get? k = some (.intact w) → w.IsOf composition → Q k

variable {s t : Store} {composition : String} {Q : String → Prop}

theorem Confines.put (h : s.Confines composition Q) (k : String) {r : Row Watcher}
    (hr : ∀ w, r = .intact w → w.IsOf composition → Q k) :
    Confines { s with watchers := s.watchers.put k r } composition Q := by
  intro j w hj
  rw [Table.get?_put] at hj
  split at hj
  · next hk => exact hk ▸ hr w (Option.some.inj hj)
  · exact h j w hj

theorem Confines.filter (h : s.Confines composition Q) (keep : String → Row Watcher → Bool) :
    Confines { s with watchers := s.watchers.filter keep } composition Q := by
  intro k w hk
  rw [Table.get?_filter] at hk
  exact h k w (Option.filter_eq_some_iff.1 hk).1

theorem Confines.record (h : s.Confines composition Q) {id : String}
    {change : Statistics → Except StoreFault Statistics} (ht : s.record id change = .ok t) :
    t.Confines composition Q := by
  obtain ⟨w, stats, hw, -, rfl⟩ := record_eq_ok.1 ht
  refine h.put id fun v hv hof => ?_
  obtain rfl := Row.intact.inj hv
  exact h id w hw ((Watcher.isOf_congr rfl).1 hof)

/-- A change keeps the watchers of a composition under such keys unless it stores one elsewhere. -/
theorem Confines.apply (h : s.Confines composition Q) {c : StoreChange}
    (hc : ∀ w, c.watcher? = some w → w.IsOf composition → Q w.id) :
    (s.apply c).Confines composition Q := by
  cases c with
  | create w | createOrReplace w | update w =>
    refine accept_keeps (fun t => t.Confines composition Q) h fun t ht => ?_
    simp only [create_eq_ok, createOrReplace_eq_ok, update_eq_ok] at ht
    simp only [ht]
    exact h.put w.id fun v hv => Row.intact.inj hv ▸ hc w rfl
  | recordFire | recordError =>
    exact accept_keeps (fun t => t.Confines composition Q) h fun t ht => h.record ht
  | delete | deleteByStem => exact h.filter _
  | damageWatcher id => exact h.put id fun w hw => by cases hw
  | upsertCursor k => rwa [Confines, Store.apply, watchers_upsertCursor]
  | deleteCursors | damageCursor => exact h

/-- No intact row holds a watcher of the composition. -/
def IsClearOf (s : Store) (composition : String) : Prop :=
  s.Confines composition fun _ => False

theorem exists_row_of_mem_scan {keep : String → Watcher → Bool} {w : Watcher}
    (h : w ∈ s.scan keep) : ∃ k, s.watchers.get? k = some (.intact w) := by
  obtain ⟨⟨k, r⟩, hmem, hr⟩ := List.mem_filterMap.1 h
  obtain ⟨hvalue, -⟩ := Option.filter_eq_some_iff.1 hr
  cases r with
  | damaged => cases hvalue
  | intact v =>
    obtain rfl := Option.some.inj hvalue
    exact ⟨k, Table.get?_eq_some_iff.2 hmem⟩

end Store

/-- No active watcher is one of the composition. -/
def ActiveSet.IsClearOf (set : ActiveSet) (composition : String) : Prop :=
  ∀ w ∈ set.watchers.values, ¬ w.IsOf composition

/-- What is active in the active set of a store is stored there. -/
theorem ActiveSet.isClearOf_ofStore {s : Store} {composition : String}
    (h : s.IsClearOf composition) : (ofStore s).IsClearOf composition := by
  intro v hv hof
  obtain ⟨id, hid⟩ := Table.mem_values.1 hv
  obtain ⟨w, hw, he⟩ := List.mem_map.1 (Table.mem_of_get?_ofList hid)
  obtain ⟨-, rfl⟩ := Prod.mk.inj he
  obtain ⟨k, hk⟩ := Store.exists_row_of_mem_scan (List.mem_filter.1 hw).1
  exact h k w hk ((Watcher.isOf_congr (seeded_edge? s w)).1 hof)

/-! ### Moves -/

namespace Move

/-- The composition is compiled, or one with an id that makes up keys of the composition, or somebody
stores a watcher of the composition. -/
def Revives (composition : String) : Move → Prop
  | .compile _ _ _ _ c => ∃ source target, Cursor.IsKeyOf composition (Cursor.keyOf c.id source target)
  | .change c => ∃ w, c.watcher? = some w ∧ w.IsOf composition
  | _ => False

/-- A watcher of the composition gets to where compilations of the composition do not put it: an id
that makes up keys of the composition is compiled, or somebody stores the watcher there. -/
def Misplaces (composition : String) : Move → Prop
  | .compile _ _ _ _ c => c.id ≠ composition ∧
      ∃ source target, Cursor.IsKeyOf composition (Cursor.keyOf c.id source target)
  | .change c => ∃ w, c.watcher? = some w ∧ w.IsOf composition ∧
      ¬ Naming.startsWith w.id (Naming.edgeStem composition) = true
  | _ => False

variable {composition : String} {m : Move}

/-- As long as ids do without the separator of keys, no other composition has to do with this one. -/
theorem revives_compile_iff {outage : Outage} {resolver : Resolver} {config : CompilerConfig}
    {now : Moment} {c : Composition} (hcomposition : Cursor.separator ∉ composition.toList)
    (hc : Cursor.separator ∉ c.id.toList) :
    Revives composition (.compile outage resolver config now c) ↔ c.id = composition := by
  simp only [Revives, Cursor.isKeyOf_keyOf_iff hcomposition hc, exists_const]

theorem not_misplaces_compile {outage : Outage} {resolver : Resolver} {config : CompilerConfig}
    {now : Moment} {c : Composition} (hcomposition : Cursor.separator ∉ composition.toList)
    (hc : Cursor.separator ∉ c.id.toList) :
    ¬ Misplaces composition (.compile outage resolver config now c) := by
  simp only [Misplaces, Cursor.isKeyOf_keyOf_iff hcomposition hc, exists_const]
  exact fun h => h.1 h.2

/-- A watcher of the composition is stored by hand, or for an edge of a composition that makes up keys
of this one, and then under the stem of that one. -/
theorem Makes.origin {e : Effect} {c : StoreChange} (h : m.Makes e c) {w : Watcher}
    (hw : c.watcher? = some w) (hof : w.IsOf composition) :
    m = .change c ∨ ∃ outage resolver config now d, m = .compile outage resolver config now d ∧
      (∃ source target, Cursor.IsKeyOf composition (Cursor.keyOf d.id source target)) ∧
      Naming.startsWith w.id (Naming.edgeStem d.id) = true := by
  cases h with
  | change => exact .inl rfl
  | @compile outage resolver config now d e u hu =>
    obtain ⟨⟨e, he, hcomposition⟩, hstem⟩ := hu.origin hw
    obtain ⟨key, hkey, e', he', rfl⟩ := hof
    obtain rfl := Option.some.inj (he.symm.trans he')
    rw [EdgeAction.cursorKey, hcomposition] at hkey
    exact .inr ⟨outage, resolver, config, now, d, rfl, ⟨_, _, hkey⟩, hstem⟩
  | removeWatchers | removeCursors => cases hw
  | @finish _ _ _ _ _ b => cases b <;> cases hw
  | giveUp => cases hw

/-- A move that does not revive the composition stores none of its watchers. -/
theorem Makes.not_isOf {e : Effect} {c : StoreChange} (h : m.Makes e c)
    (hm : ¬ m.Revives composition) {w : Watcher} (hw : c.watcher? = some w) :
    ¬ w.IsOf composition := by
  intro hof
  rcases h.origin hw hof with rfl | ⟨_, _, _, _, d, rfl, hkey, -⟩
  · exact hm ⟨w, hw, hof⟩
  · exact hm hkey

/-- A move that misplaces none stores watchers of the composition under its stem only. -/
theorem Makes.startsWith {e : Effect} {c : StoreChange} (h : m.Makes e c)
    (hm : ¬ m.Misplaces composition) {w : Watcher} (hw : c.watcher? = some w)
    (hof : w.IsOf composition) :
    Naming.startsWith w.id (Naming.edgeStem composition) = true := by
  by_contra hout
  rcases h.origin hw hof with rfl | ⟨_, _, _, _, d, rfl, hkey, hstem⟩
  · exact hm ⟨w, hw, hof, hout⟩
  · exact hm ⟨fun hid => hout (hid ▸ hstem), hkey⟩

end Move

namespace System

variable {s t : System} {m : Move} {e : Effect} {composition : String}

/-! ### Runs that keep watchers in their place -/

/-- All watchers of the composition are under its stem. -/
def Confines (s : System) (composition : String) : Prop :=
  s.store.Confines composition fun k => Naming.startsWith k (Naming.edgeStem composition) = true

theorem confines_step (h : s.step? m = some (t, e)) (hm : ¬ m.Misplaces composition)
    (hs : s.Confines composition) : t.Confines composition :=
  (step_evolves h).keeps (P := fun u => u.Confines composition _)
    (fun _ _ hc hu => hu.apply fun _ hw hof => hc.startsWith hm hw hof) hs

/-- Compilations and whatever else a run is made of keep the watchers of a composition under its stem,
unless somebody stores one elsewhere. -/
theorem confines_run {ms : List Move} (h : s.run? ms = some t)
    (hms : ∀ m ∈ ms, ¬ m.Misplaces composition) (hs : s.Confines composition) :
    t.Confines composition :=
  run?_keeps (P := fun u => u.Confines composition)
    (fun hm hmove hu => confines_step hmove (hms _ hm) hu) hs h

/-! ### Runs that do not revive a composition -/

/-- Neither the store nor the active set has a watcher of the composition. -/
structure IsClearOf (s : System) (composition : String) : Prop where
  store : s.store.IsClearOf composition
  active : s.engine.active.IsClearOf composition

/-- A move keeps the system clear of a composition unless it revives it. -/
theorem isClearOf_step (h : s.step? m = some (t, e)) (hm : ¬ m.Revives composition)
    (hs : s.IsClearOf composition) : t.IsClearOf composition := by
  have hstore : t.store.IsClearOf composition :=
    (step_evolves h).keeps (P := fun u => u.IsClearOf composition)
      (fun _ _ hc hu => hu.apply fun _ hw => hc.not_isOf hm hw) hs.store
  refine ⟨hstore, ?_⟩
  rw [step_active h]
  split
  · exact ActiveSet.isClearOf_ofStore hstore
  · exact hs.active

theorem isClearOf_run {ms : List Move} (h : s.run? ms = some t)
    (hms : ∀ m ∈ ms, ¬ m.Revives composition) (hs : s.IsClearOf composition) :
    t.IsClearOf composition :=
  run?_keeps (P := fun u => u.IsClearOf composition)
    (fun hm hmove hu => isClearOf_step hmove (hms _ hm) hu) hs h

/-! ### Clean-ups -/

/-- The clean-up of a composition whose watchers are all under its stem removes them, and the engine
takes over what is left. -/
structure Clears (s : System) (outage : Outage) (composition : String) : Prop where
  segment : Naming.isSegment composition = true
  confined : s.Confines composition
  removes : outage (.deleteByStem (Naming.edgeStem composition)) = none
  reloads : (s.cleanUp outage composition).2.reloaded = true

/-- Such a clean-up leaves no watcher of the composition. -/
theorem Clears.isClearOf {outage : Outage} (h : s.Clears outage composition)
    (hcursors : outage (.deleteCursors composition) = none) :
    (s.cleanUp outage composition).1.IsClearOf composition := by
  obtain ⟨hstore, -⟩ := s.cleanUp_of_removals outage h.segment h.removes hcursors
  have hclear : (s.cleanUp outage composition).1.store.IsClearOf composition := by
    intro k w hk hof
    have hrow : (s.store.deleteByStem (Naming.edgeStem composition)).watchers.get? k =
        some (.intact w) := by rwa [hstore] at hk
    rw [Store.get?_deleteByStem] at hrow
    split at hrow
    · cases hrow
    · next hother => exact hother (h.confined k w hrow hof)
  refine ⟨hclear, ?_⟩
  rw [active_of_cleanUp h.reloads]
  exact ActiveSet.isClearOf_ofStore hclear

end System

end Watchtower
