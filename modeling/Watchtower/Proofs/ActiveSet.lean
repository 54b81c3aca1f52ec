import Mathlib.Tactic.Common
import Watchtower.Proofs.Compilation.Convergence

/-!
The active set of a store.

A reload that succeeds takes over the active set that the store alone determines
(`ActiveSet.ofStore`, `System.reload_eq_ok`). Its active and its suppressed watchers are the two
parts of the enabled ones, and a watcher is suppressed exactly if it is a semantic glyph's standalone
watcher and the store itself finds a compound watcher for that glyph (`System.reload_partitions`).
-/

namespace Watchtower

namespace Traced

variable {α β : Type}

/-- The computation has a result. -/
def Works (x : Traced α) : Prop := ∃ a, x.result = .ok a

theorem works_pure (a : α) : Works (pure a : Traced α) := ⟨a, rfl⟩

theorem works_bind {x : Traced α} {f : α → Traced β} (h : Works x) (hf : ∀ a, Works (f a)) :
    Works (x >>= f) := by
  obtain ⟨a, ha⟩ := h
  obtain ⟨b, hb⟩ := hf a
  exact ⟨b, by rw [result_bind, ha]; exact hb⟩

end Traced

open Traced

namespace Store

/-- The glyphs that enabled compound watchers cover. -/
def covered (s : Store) : List String := (s.list false).filterMap Watcher.covers?

theorem mem_list {s : Store} (hs : s.Sound) {w : Watcher} :
    w ∈ s.list false ↔ s.watchers.get? w.id = some (.intact w) ∧ w.rule.enabled = true :=
  mem_scan hs

/-- The glyphs covered are those for which the store finds a compound watcher. -/
theorem mem_covered {s : Store} (hs : s.Sound) {glyph : String} :
    glyph ∈ s.covered ↔ s.compoundsFor glyph ≠ [] := by
  rw [covered, List.mem_filterMap, ne_eq, List.eq_nil_iff_forall_not_mem, not_forall_not]
  simp only [mem_list hs, compoundsFor, mem_scan hs, Bool.and_eq_true, beq_iff_eq]
  constructor
  · rintro ⟨w, ⟨hrow, hon⟩, hc⟩
    exact ⟨w, hrow, hon, hc⟩
  · rintro ⟨w, hrow, hon, hc⟩
    exact ⟨w, ⟨hrow, hon⟩, hc⟩

end Store

namespace ActiveSet

/-! ### The set as a function of the store -/

/-- The copy of a watcher that becomes active: started where the cursor of its edge stands. -/
def seeded (s : Store) (w : Watcher) : Watcher :=
  match w.rule.edge? with
  | none => w
  | some e =>
    match s.cursor? e.composition e.source e.target with
    | some c => gate w c.lastAt
    | none => w

@[simp] theorem seeded_id (s : Store) (w : Watcher) : (seeded s w).id = w.id := by
  unfold seeded
  split
  · rfl
  · split <;> rfl

@[simp] theorem seeded_edge? (s : Store) (w : Watcher) :
    (seeded s w).rule.edge? = w.rule.edge? := by
  unfold seeded
  split
  · rfl
  · split <;> rfl

/-- The active set that a store determines. -/
def ofStore (s : Store) : ActiveSet where
  watchers := .ofList <| ((s.list false).filter fun w => !hidden s.covered w).map fun w =>
    (w.id, seeded s w)
  suppressed := .ofList <| ((s.list false).filter (hidden s.covered)).map (·.id)

theorem hidden_iff {covered : List String} {w : Watcher} :
    hidden covered w = true ↔
      w.rule.isCompound = false ∧ ∃ g, w.id = Naming.semanticWatcher g ∧ g ∈ covered := by
  unfold hidden Watcher.standaloneGlyph?
  cases w.rule.isCompound with
  | true => simp
  | false =>
    simp only [Bool.false_eq_true, if_false, Option.any_eq_true, Naming.after?_eq_some,
      List.contains_eq_mem, decide_eq_true_eq, true_and]
    rfl

variable {a : Access}

theorem seed_ensures (w : Watcher) : Ensures (· = seeded a.store w) (seed a w) := by
  unfold seed seeded
  cases w.rule.edge? with
  | none => exact ensures_pure rfl
  | some e =>
    refine ensures_bind (P := (· = a.store.cursor? e.composition e.source e.target)) ?_ ?_
    · intro found h
      exact (Except.ok.inj (Access.attempt_result.1 h).2).symm
    · rintro found rfl
      exact ensures_pure rfl

/-- Sorting watchers one after the other puts the hidden ones among the suppressed and all others
among the active ones. -/
theorem foldlM_sort_ensures (covered : List String) (ws : List Watcher) (set : ActiveSet) :
    Ensures (fun t =>
        t.watchers = ((ws.filter fun w => !hidden covered w).map fun w =>
          (w.id, seeded a.store w)).foldl (fun t r => t.put r.1 r.2) set.watchers ∧
        t.suppressed = (((ws.filter (hidden covered)).map (·.id)).map fun id => (id, ())).foldl
          (fun t r => t.put r.1 r.2) set.suppressed)
      (ws.foldlM (sort a covered) set) := by
  induction ws generalizing set with
  | nil => exact ensures_pure ⟨rfl, rfl⟩
  | cons w ws ih =>
    rw [List.foldlM_cons]
    cases hw : hidden covered w with
    | true =>
      refine ensures_bind (P := (· = { set with suppressed := set.suppressed.insert w.id })) ?_ ?_
      · simp only [sort, hw, if_true]
        exact ensures_bind (ensures_true _) fun _ _ => ensures_pure rfl
      · rintro _ rfl
        simpa [hw, Labels.insert] using ih { set with suppressed := set.suppressed.insert w.id }
    | false =>
      refine ensures_bind
        (P := (· = { set with watchers := set.watchers.put w.id (seeded a.store w) })) ?_ ?_
      · simp only [sort, hw, Bool.false_eq_true, if_false]
        exact ensures_bind (seed_ensures w) fun _ h => ensures_pure (by rw [h])
      · rintro _ rfl
        simpa [hw] using ih { set with watchers := set.watchers.put w.id (seeded a.store w) }

/-- Whatever is gathered from a store is its active set. -/
theorem gather_ensures (a : Access) : Ensures (· = ofStore a.store) (gather a) := by
  refine ensures_bind (P := (· = a.store.list false)) ?_ ?_
  · intro found h
    exact (Except.ok.inj (Access.attempt_result.1 h).2).symm
  · rintro _ rfl
    intro t ht
    obtain ⟨hwatchers, hsuppressed⟩ := foldlM_sort_ensures _ _ _ t ht
    cases t
    simp only at hwatchers hsuppressed
    rw [hwatchers, hsuppressed]
    rfl

/-- Active watchers are under their own ids. -/
def Keyed (set : ActiveSet) : Prop := ∀ {k w}, set.watchers.get? k = some w → w.id = k

theorem keyed_ofStore (s : Store) : (ofStore s).Keyed := by
  intro k w hw
  obtain ⟨v, -, he⟩ := List.mem_map.1 (Table.mem_of_get?_ofList hw)
  obtain ⟨rfl, rfl⟩ := Prod.mk.inj he
  exact seeded_id s v

theorem keyed_of_gather {a : Access} {set : ActiveSet} (h : (gather a).result = .ok set) :
    set.Keyed := gather_ensures a set h ▸ keyed_ofStore a.store

theorem works_attempt {α : Type} {call : StoreCall} {act : Traced α} (h : a.outage call = none)
    (hact : Works act) : Works (a.attempt call act) := by
  obtain ⟨v, hv⟩ := hact
  exact ⟨v, Access.attempt_result.2 ⟨h, hv⟩⟩

/-- An active set can be gathered wherever watchers can be listed and cursors be read. -/
theorem works_gather (hlist : a.outage .list = none)
    (hcursor : ∀ c source target, a.outage (.cursor c source target) = none) :
    Works (gather a) := by
  have hseed : ∀ w, Works (seed a w) := by
    intro w
    unfold seed
    split
    · exact works_pure _
    · exact works_bind (works_attempt (hcursor ..) ⟨_, rfl⟩) fun _ => works_pure _
  refine works_bind (works_attempt hlist ⟨_, rfl⟩) fun ws =>
    foldlM_of_bind works_pure works_bind ws (fun set w => ?_) _
  unfold sort
  split
  · exact works_bind ⟨_, rfl⟩ fun _ => works_pure _
  · exact works_bind (hseed w) fun _ => works_pure _

/-! ### What is in it -/

variable {s : Store}

/-- A part of the enabled watchers has increasing ids. -/
theorem ids_ordered (hs : s.Sound) (keep : Watcher → Bool) :
    ((s.list false).filter keep).Pairwise fun v w => v.id < w.id :=
  (List.pairwise_map.1 (Store.scan_ordered hs _)).filter _

theorem suppressed_ofStore (hs : s.Sound) :
    (ofStore s).suppressed.toList = ((s.list false).filter (hidden s.covered)).map (·.id) := by
  have h : (((s.list false).filter (hidden s.covered)).map (·.id) |>.map fun id => (id, ())).Pairwise
      fun r t => r.1 < t.1 := by
    simpa [List.pairwise_map] using ids_ordered hs (hidden s.covered)
  rw [Labels.toList, ofStore, Labels.ofList, Table.keys_ofList h]
  simp

theorem get?_ofStore (hs : s.Sound) {id : String} {v : Watcher} :
    (ofStore s).watchers.get? id = some v ↔
      ∃ w ∈ s.list false, hidden s.covered w = false ∧ w.id = id ∧ seeded s w = v := by
  have hlt : (((s.list false).filter fun w => !hidden s.covered w).map fun w =>
      (w.id, seeded s w)).Pairwise fun r t => r.1 < t.1 := by
    simpa [List.pairwise_map] using ids_ordered hs fun w => !hidden s.covered w
  rw [ofStore, Table.get?_ofList_iff hlt]
  simp only [List.mem_map, List.mem_filter, Bool.not_eq_true', Prod.mk.injEq]
  constructor
  · rintro ⟨w, ⟨hw, hh⟩, he⟩
    exact ⟨w, hw, hh, he⟩
  · rintro ⟨w, hw, hh, he⟩
    exact ⟨w, ⟨hw, hh⟩, he⟩

theorem mem_keys_ofStore (hs : s.Sound) {id : String} :
    id ∈ (ofStore s).watchers.keys ↔
      ∃ w ∈ s.list false, hidden s.covered w = false ∧ w.id = id := by
  simp only [Table.mem_keys, get?_ofStore hs]
  constructor
  · rintro ⟨v, w, hw, hh, he, -⟩
    exact ⟨w, hw, hh, he⟩
  · rintro ⟨w, hw, hh, he⟩
    exact ⟨seeded s w, w, hw, hh, he, rfl⟩

theorem mem_suppressed_ofStore (hs : s.Sound) {id : String} :
    id ∈ (ofStore s).suppressed.toList ↔
      ∃ w ∈ s.list false, hidden s.covered w = true ∧ w.id = id := by
  rw [suppressed_ofStore hs, List.mem_map]
  simp only [List.mem_filter]
  constructor
  · rintro ⟨w, ⟨hw, hh⟩, he⟩
    exact ⟨w, hw, hh, he⟩
  · rintro ⟨w, hw, hh, he⟩
    exact ⟨w, ⟨hw, hh⟩, he⟩

/-- Of the enabled watchers no two have one id. -/
theorem eq_of_mem_list (hs : s.Sound) {v w : Watcher} (hv : v ∈ s.list false) (hw : w ∈ s.list false)
    (e : v.id = w.id) : v = w := by
  have hrow := ((Store.mem_list hs).1 hv).1
  rw [e, ((Store.mem_list hs).1 hw).1] at hrow
  exact (Row.intact.inj (Option.some.inj hrow)).symm

/-- The set divides the enabled watchers of a store into active and suppressed ones. -/
structure Partitions (set : ActiveSet) (s : Store) : Prop where
  /-- Every enabled watcher is one or the other, and nothing else is either. -/
  all : ∀ id, (id ∈ set.watchers.keys ∨ id ∈ set.suppressed.toList) ↔ ∃ w ∈ s.list false, w.id = id
  /-- No watcher is both. -/
  apart : ∀ id ∈ set.watchers.keys, id ∉ set.suppressed.toList
  /-- Suppressed are the standalone watchers of glyphs for which the store finds compound ones. -/
  suppressed : ∀ w ∈ s.list false, w.id ∈ set.suppressed.toList ↔
    w.rule.isCompound = false ∧ ∃ g, w.id = Naming.semanticWatcher g ∧ s.compoundsFor g ≠ []
  /-- No watcher of an edge is suppressed. -/
  edges : ∀ c source target, Naming.edgeWatcher c source target ∉ set.suppressed.toList
  /-- No compound watcher is suppressed. -/
  compounds : ∀ w ∈ s.list false, w.rule.isCompound = true → w.id ∉ set.suppressed.toList
  sorted : set.suppressed.toList.Pairwise (· < ·)

theorem suppressed_iff (hs : s.Sound) {w : Watcher} (hw : w ∈ s.list false) :
    w.id ∈ (ofStore s).suppressed.toList ↔
      w.rule.isCompound = false ∧ ∃ g, w.id = Naming.semanticWatcher g ∧ s.compoundsFor g ≠ [] := by
  simp only [← Store.mem_covered hs]
  rw [← hidden_iff, mem_suppressed_ofStore hs]
  constructor
  · rintro ⟨v, hv, hh, e⟩
    exact eq_of_mem_list hs hv hw e ▸ hh
  · intro hh
    exact ⟨w, hw, hh, rfl⟩

theorem partitions_ofStore (hs : s.Sound) : (ofStore s).Partitions s where
  all := by
    intro id
    rw [mem_keys_ofStore hs, mem_suppressed_ofStore hs]
    constructor
    · rintro (⟨w, hw, -, e⟩ | ⟨w, hw, -, e⟩) <;> exact ⟨w, hw, e⟩
    · rintro ⟨w, hw, e⟩
      cases hh : hidden s.covered w with
      | true => exact .inr ⟨w, hw, hh, e⟩
      | false => exact .inl ⟨w, hw, hh, e⟩
  apart := by
    intro id hactive hsuppressed
    obtain ⟨v, hv, hshown, rfl⟩ := (mem_keys_ofStore hs).1 hactive
    obtain ⟨w, hw, hh, e⟩ := (mem_suppressed_ofStore hs).1 hsuppressed
    rw [eq_of_mem_list hs hw hv e, hshown] at hh
    cases hh
  suppressed w hw := suppressed_iff hs hw
  edges := by
    intro c source target hsuppressed
    obtain ⟨w, hw, hh, e⟩ := (mem_suppressed_ofStore hs).1 hsuppressed
    obtain ⟨-, g, hg, -⟩ := hidden_iff.1 hh
    exact Naming.edgeWatcher_ne_semanticWatcher c source target g (e.symm.trans hg)
  compounds := by
    intro w hw hc hsuppressed
    rw [((suppressed_iff hs hw).1 hsuppressed).1] at hc
    cases hc
  sorted := Table.keys_ordered _

end ActiveSet

namespace System

variable {s t : System} {outage : Outage}

/-- A reload that succeeds takes over the active set of the store and changes nothing stored. -/
theorem reload_eq_ok (h : s.reload outage = (t, .ok ())) :
    t.store = s.store ∧ t.engine = s.engine.activate (.ofStore s.store) := by
  unfold reload adopt at h
  dsimp only at h
  split at h
  · cases h
  · next set hset =>
    obtain rfl := ActiveSet.gather_ensures _ set hset
    obtain ⟨rfl, -⟩ := Prod.mk.inj h
    exact ⟨rfl, rfl⟩

/-- A reload succeeds wherever watchers can be listed and cursors be read. -/
theorem reload_of_works (hlist : outage .list = none)
    (hcursor : ∀ c source target, outage (.cursor c source target) = none) :
    ∃ t, s.reload outage = (t, .ok ()) := by
  obtain ⟨set, hset⟩ := ActiveSet.works_gather (a := s.access outage) hlist hcursor
  unfold reload adopt
  dsimp only
  rw [hset]
  exact ⟨_, rfl⟩

/-- Whether a reload succeeds is a matter of the store and its outage. -/
theorem reload_result_eq {u : System} (hstore : u.store = s.store) :
    (u.reload outage).2 = (s.reload outage).2 := by
  have h : u.access outage = s.access outage := by rw [access, access, hstore]
  unfold reload adopt
  rw [h]
  dsimp only
  split <;> rfl

/-- A reload that succeeds divides the enabled watchers of the store into active and suppressed ones,
in agreement with the store's own search for compound watchers. It writes nothing, and any system
over the same store comes to the same active set. -/
theorem reload_partitions (hs : s.store.Reachable) (h : s.reload outage = (t, .ok ())) :
    t.engine.active.Partitions s.store ∧ t.store = s.store ∧
      ∀ u : System, u.store = s.store →
        ∃ u', u.reload outage = (u', .ok ()) ∧ u'.engine.active = t.engine.active := by
  obtain ⟨hstore, hengine⟩ := reload_eq_ok h
  have hactive : t.engine.active = .ofStore s.store := by rw [hengine]; rfl
  refine ⟨?_, hstore, fun u hu => ?_⟩
  · rw [hactive]
    exact ActiveSet.partitions_ofStore hs.sound
  · have hok : (u.reload outage).2 = .ok () := by rw [reload_result_eq hu, h]
    have hu' : u.reload outage = ((u.reload outage).1, .ok ()) := Prod.ext rfl hok
    refine ⟨_, hu', ?_⟩
    rw [(reload_eq_ok hu').2, hactive, hu]
    rfl

end System

/-! Two semantic glyphs, a compound watcher of the edge between them, and a disabled one of the way
back. -/

namespace Sample

/-- The compound watcher of an edge between semantic glyphs. -/
def compound (source target : String) (enabled : Bool) : Watcher :=
  let standalone := semantic target .one
  { standalone with
    id := Naming.edgeWatcher "c" source target
    rule := { standalone.rule with
      enabled
      action := .semanticMatch
      payload := EdgeAction.toPayload ⟨target, none, "c", source⟩
      antecedent := some ⟨source, .one⟩ } }

def linked : System where
  store := [.create (semantic "a" .one), .create (semantic "b" .one), .create (compound "a" "b" true),
    .create (compound "b" "a" false)].foldl Store.apply .empty
  engine := (system .one).engine
  metrics := .zero
  journal := []

end Sample

namespace System

/-- In the sample the standalone watcher of the enabled compound watcher's target is suppressed, and
that of its source is not. -/
theorem sample_partitions : ∃ t, Sample.linked.reload .none = (t, .ok ()) ∧
    t.engine.active.Partitions Sample.linked.store ∧
    "se-glyph-b" ∈ t.engine.active.suppressed.toList ∧
    "se-glyph-a" ∉ t.engine.active.suppressed.toList := by
  have hs : Sample.linked.store.Reachable := ⟨_, rfl⟩
  have hrow : ∀ {w : Watcher}, Sample.linked.store.watchers.get? w.id = some (.intact w) →
      w.rule.enabled = true → w ∈ Sample.linked.store.list false := fun hw hon =>
    (Store.mem_list hs.sound).2 ⟨hw, hon⟩
  obtain ⟨t, h⟩ : ∃ t, Sample.linked.reload .none = (t, .ok ()) :=
    reload_of_works rfl fun _ _ _ => rfl
  have hparts := (reload_partitions hs h).1
  refine ⟨t, h, hparts, ?_, ?_⟩
  · refine (hparts.suppressed (Sample.semantic "b" .one) (hrow rfl rfl)).2 ⟨rfl, "b", rfl, ?_⟩
    refine (Store.mem_covered hs.sound).1 (List.mem_filterMap.2 ?_)
    exact ⟨Sample.compound "a" "b" true, hrow rfl rfl, by decide +kernel⟩
  · intro hsuppressed
    obtain ⟨-, g, hg, hcompound⟩ :=
      (hparts.suppressed (Sample.semantic "a" .one) (hrow rfl rfl)).1 hsuppressed
    obtain rfl := Naming.semanticWatcher_inj hg
    refine hcompound ?_
    decide +kernel

end System

end Watchtower
