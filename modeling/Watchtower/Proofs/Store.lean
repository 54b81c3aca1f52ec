import Mathlib.Tactic.Common
import Watchtower.Proofs.Naming
import Watchtower.Proofs.Table
import Watchtower.Store

/-!
Stores that writes lead to, and what holds of all of them.

A store is reachable if some changes, made one after the other to the empty store, lead to it; a
change that is refused leaves the store as it is, and rows may be damaged at any time. In every
reachable store an intact row holds what its key says (`Store.Sound`), so a scan lists watchers in
the order of their ids.
-/

namespace Watchtower

/-- A write to the store, or damage done to one of its rows. -/
inductive StoreChange where
  | create (w : Watcher)
  | createOrReplace (w : Watcher)
  | update (w : Watcher)
  | delete (id : String)
  | deleteByStem (stem : String)
  | recordFire (id : String) (at_ : Moment)
  | recordError (id message : String)
  | upsertCursor (c : Cursor)
  | deleteCursors (composition : String)
  | damageWatcher (id : String)
  | damageCursor (composition source target : String)

namespace Store

/-- The store after a write, or the store as it was if the write is refused. -/
def accept (s : Store) : Except StoreFault Store → Store
  | .ok t => t
  | .error _ => s

/-- The store after a change. -/
def apply (s : Store) : StoreChange → Store
  | .create w => s.accept (s.create w)
  | .createOrReplace w => s.accept (s.createOrReplace w)
  | .update w => s.accept (s.update w)
  | .delete id => s.delete id
  | .deleteByStem stem => s.deleteByStem stem
  | .recordFire id at_ => s.accept (s.recordFire id at_)
  | .recordError id message => s.accept (s.recordError id message)
  | .upsertCursor c => s.upsertCursor c
  | .deleteCursors composition => s.deleteCursors composition
  | .damageWatcher id => s.damageWatcher id
  | .damageCursor composition source target => s.damageCursor composition source target

/-- Some changes lead from the empty store to this one. -/
def Reachable (s : Store) : Prop := ∃ changes : List StoreChange, changes.foldl apply empty = s

theorem Reachable.apply {s : Store} (h : s.Reachable) (c : StoreChange) : (s.apply c).Reachable := by
  obtain ⟨changes, rfl⟩ := h
  exact ⟨changes ++ [c], by rw [List.foldl_append, List.foldl_cons, List.foldl_nil]⟩

/-- Every intact row holds what its key says, and every intact watcher is fit to be stored. -/
structure Sound (s : Store) : Prop where
  watcher : ∀ {k w}, s.watchers.get? k = some (.intact w) → w.id = k ∧ w.defect? = none
  cursor : ∀ {k c}, s.cursors.get? k = some (.intact c) → c.key = k

/-! ### Single writes -/

theorem sound_empty : Sound empty where
  watcher h := by simp [empty] at h
  cursor h := by simp [empty] at h

/-- A row that is damaged, or an intact one that is fit and under its key, may be put down. -/
theorem Sound.put {s : Store} (h : s.Sound) (k : String) (r : Row Watcher)
    (hr : ∀ w, r = .intact w → w.id = k ∧ w.defect? = none) :
    Sound { s with watchers := s.watchers.put k r } where
  watcher := by
    intro j w hj
    rw [Table.get?_put] at hj
    split at hj
    · next e =>
      simp only [Option.some.injEq] at hj
      exact e ▸ hr w hj
    · exact h.watcher hj
  cursor := h.cursor

theorem Sound.putCursor {s : Store} (h : s.Sound) (k : String) (r : Row Cursor)
    (hr : ∀ c, r = .intact c → c.key = k) :
    Sound { s with cursors := s.cursors.put k r } where
  watcher := h.watcher
  cursor := by
    intro j c hj
    rw [Table.get?_put] at hj
    split at hj
    · next e =>
      simp only [Option.some.injEq] at hj
      exact e ▸ hr c hj
    · exact h.cursor hj

theorem Sound.filter {s : Store} (h : s.Sound) (keep : String → Row Watcher → Bool) :
    Sound { s with watchers := s.watchers.filter keep } where
  watcher := by
    intro k w hk
    rw [Table.get?_filter] at hk
    exact h.watcher (Option.filter_eq_some_iff.1 hk).1
  cursor := h.cursor

theorem Sound.filterCursors {s : Store} (h : s.Sound) (keep : String → Row Cursor → Bool) :
    Sound { s with cursors := s.cursors.filter keep } where
  watcher := h.watcher
  cursor := by
    intro k c hk
    rw [Table.get?_filter] at hk
    exact h.cursor (Option.filter_eq_some_iff.1 hk).1

theorem fault?_eq_none {w : Watcher} : fault? w = none ↔ w.defect? = none := by
  rw [fault?, Option.map_eq_none_iff]

theorem Sound.write {s : Store} (h : s.Sound) {w : Watcher} (hw : fault? w = none) :
    (s.write w).Sound :=
  h.put w.id (.intact w) fun _ e => by
    obtain rfl := Row.intact.inj e
    exact ⟨rfl, fault?_eq_none.1 hw⟩

theorem record_eq_ok {s t : Store} {id : String}
    {change : Statistics → Except StoreFault Statistics} : s.record id change = .ok t ↔
      ∃ w stats, s.watchers.get? id = some (.intact w) ∧ change w.stats = .ok stats ∧
        t = { s with watchers := s.watchers.put id (.intact { w with stats }) } := by
  unfold record
  rcases s.watchers.get? id with - | w | -
  · simp
  · cases hc : change w.stats <;> simp [hc, bind, Except.bind, pure, Except.pure, eq_comm]
  · simp

/-- Statistics are no part of what makes a watcher fit. -/
theorem Sound.record {s t : Store} (h : s.Sound) {id : String}
    {change : Statistics → Except StoreFault Statistics} (ht : s.record id change = .ok t) :
    t.Sound := by
  obtain ⟨w, stats, hw, -, rfl⟩ := record_eq_ok.1 ht
  obtain ⟨hid, hd⟩ := h.watcher hw
  refine h.put id _ fun v e => ?_
  obtain rfl := Row.intact.inj e
  exact ⟨hid, hd⟩

/-- What holds of a store and of the outcome of a write holds whether or not the write is refused. -/
theorem accept_keeps (P : Store → Prop) {s : Store} (h : P s) {r : Except StoreFault Store}
    (hr : ∀ t, r = .ok t → P t) : P (s.accept r) := by
  cases r with
  | ok t => exact hr t rfl
  | error f => exact h

theorem createOrReplace_eq_ok {s t : Store} {w : Watcher} :
    s.createOrReplace w = .ok t ↔ fault? w = none ∧ t = s.write w := by
  unfold createOrReplace
  cases fault? w <;> simp [eq_comm]

theorem create_eq_ok {s t : Store} {w : Watcher} :
    s.create w = .ok t ↔
      fault? w = none ∧ s.watchers.contains w.id = false ∧ t = s.write w := by
  unfold create
  cases fault? w <;> cases s.watchers.contains w.id <;> simp [eq_comm]

theorem update_eq_ok {s t : Store} {w : Watcher} :
    s.update w = .ok t ↔
      fault? w = none ∧ s.watchers.contains w.id = true ∧ t = s.write w := by
  unfold update
  cases fault? w <;> cases s.watchers.contains w.id <;> simp [eq_comm]

theorem Sound.upsertCursor {s : Store} (h : s.Sound) (c : Cursor) : (s.upsertCursor c).Sound := by
  have hput : Sound { s with cursors := s.cursors.put c.key (.intact c) } :=
    h.putCursor c.key _ fun d e => by rw [Row.intact.inj e]
  unfold Store.upsertCursor
  split
  · split
    · exact h
    · exact hput
  · exact hput

@[simp] theorem watchers_upsertCursor (s : Store) (c : Cursor) :
    (s.upsertCursor c).watchers = s.watchers := by
  unfold Store.upsertCursor
  split
  · split <;> rfl
  · rfl

/-! ### Runs of changes -/

/-- One change keeps a store sound. -/
theorem Sound.apply {s : Store} (h : s.Sound) (c : StoreChange) : (s.apply c).Sound := by
  cases c with
  | create w =>
    refine accept_keeps Sound h fun t ht => ?_
    obtain ⟨hf, -, rfl⟩ := create_eq_ok.1 ht
    exact h.write hf
  | createOrReplace w =>
    refine accept_keeps Sound h fun t ht => ?_
    obtain ⟨hf, rfl⟩ := createOrReplace_eq_ok.1 ht
    exact h.write hf
  | update w =>
    refine accept_keeps Sound h fun t ht => ?_
    obtain ⟨hf, -, rfl⟩ := update_eq_ok.1 ht
    exact h.write hf
  | delete id => exact h.filter _
  | deleteByStem stem => exact h.filter _
  | recordFire id at_ => exact accept_keeps Sound h fun t ht => h.record ht
  | recordError id message => exact accept_keeps Sound h fun t ht => h.record ht
  | upsertCursor c => exact h.upsertCursor c
  | deleteCursors composition => exact h.filterCursors _
  | damageWatcher id => exact h.put id .damaged fun w e => by cases e
  | damageCursor c source target => exact h.putCursor _ .damaged fun d e => by cases e

theorem sound_foldl (changes : List StoreChange) {s : Store} (h : s.Sound) :
    (changes.foldl Store.apply s).Sound := by
  induction changes generalizing s with
  | nil => exact h
  | cons c cs ih => exact ih (h.apply c)

/-- Every reachable store is sound. -/
theorem Reachable.sound {s : Store} (h : s.Reachable) : s.Sound := by
  obtain ⟨changes, rfl⟩ := h
  exact sound_foldl changes sound_empty

/-! ### Scans -/

theorem mem_scan {s : Store} (hs : s.Sound) {keep : String → Watcher → Bool} {w : Watcher} :
    w ∈ s.scan keep ↔ s.watchers.get? w.id = some (.intact w) ∧ keep w.id w = true := by
  simp only [scan, List.mem_filterMap, Option.filter_eq_some_iff]
  constructor
  · rintro ⟨⟨k, r⟩, hm, hv, hk⟩
    cases r with
    | damaged => cases hv
    | intact v =>
      obtain rfl := Option.some.inj hv
      have hget := Table.get?_eq_some_iff.2 hm
      obtain ⟨rfl, -⟩ := hs.watcher hget
      exact ⟨hget, hk⟩
  · rintro ⟨hget, hk⟩
    exact ⟨(w.id, .intact w), Table.get?_eq_some_iff.1 hget, rfl, hk⟩

theorem mem_listByStem {s : Store} (hs : s.Sound) {stem : String} {w : Watcher} :
    w ∈ s.listByStem stem ↔
      s.watchers.get? w.id = some (.intact w) ∧ Naming.startsWith w.id stem = true := mem_scan hs

/-- A scan lists watchers in the order of their ids. -/
theorem scan_ordered {s : Store} (hs : s.Sound) (keep : String → Watcher → Bool) :
    ((s.scan keep).map (·.id)).Pairwise (· < ·) := by
  have key : ∀ {r : String × Row Watcher} {w : Watcher}, r ∈ s.watchers.rows →
      r.2.value?.filter (keep r.1) = some w → w.id = r.1 := by
    rintro ⟨k, r⟩ w hr hw
    cases r with
    | damaged => simp [Row.value?] at hw
    | intact v =>
      obtain ⟨hv, -⟩ := Option.filter_eq_some_iff.1 hw
      obtain rfl := Option.some.inj hv
      exact (hs.watcher (Table.get?_eq_some_iff.2 hr)).1
  rw [List.pairwise_map, scan, List.pairwise_filterMap]
  refine s.watchers.ordered.imp_of_mem ?_
  intro a b ha hb hab v hv w hw
  rw [key ha hv, key hb hw]
  exact hab

/-- A scan selects from the list of all watchers, by their ids as keys. -/
theorem scan_eq_filter {s : Store} (hs : s.Sound) (keep : String → Watcher → Bool) :
    s.scan keep = (s.list true).filter fun w => keep w.id w := by
  rw [list, scan, scan, List.filter_filterMap]
  refine List.filterMap_congr fun r hr => ?_
  obtain ⟨k, r⟩ := r
  cases r with
  | damaged => rfl
  | intact w =>
    obtain ⟨rfl, -⟩ := hs.watcher (Table.get?_eq_some_iff.2 hr)
    simp [Row.value?, Option.filter]

/-- The rows outside a stem are scanned as they are where the others are still there. -/
theorem scan_deleteByStem {s : Store} (hs : s.Sound) (stem : String)
    (keep : String → Watcher → Bool) :
    (s.deleteByStem stem).scan keep =
      (s.scan keep).filter fun w => !Naming.startsWith w.id stem := by
  have hrows : ∀ rs : List (String × Row Watcher), (∀ r ∈ rs, r ∈ s.watchers.rows) →
      (rs.filter fun r => !Naming.startsWith r.1 stem).filterMap
          (fun r => r.2.value?.filter (keep r.1)) =
        (rs.filterMap fun r => r.2.value?.filter (keep r.1)).filter
          fun w => !Naming.startsWith w.id stem := by
    intro rs
    induction rs with
    | nil => intro _; rfl
    | cons r rs ih =>
      intro hm
      have ih := ih fun r hr => hm r (List.mem_cons_of_mem _ hr)
      obtain ⟨k, r⟩ := r
      cases r with
      | damaged =>
        cases hk : Naming.startsWith k stem <;>
          simpa [List.filter_cons, List.filterMap_cons, Row.value?, hk] using ih
      | intact v =>
        obtain ⟨rfl, -⟩ := hs.watcher (Table.get?_eq_some_iff.2 (hm _ List.mem_cons_self))
        cases hk : Naming.startsWith v.id stem <;> cases hv : keep v.id v <;>
          simpa [List.filter_cons, List.filterMap_cons, Row.value?, Option.filter, hk, hv] using ih
  exact hrows s.watchers.rows fun _ h => h

theorem get?_deleteByStem (s : Store) (stem k : String) : (s.deleteByStem stem).watchers.get? k =
    if Naming.startsWith k stem then none else s.watchers.get? k := by
  rw [deleteByStem, Table.get?_filter]
  cases Naming.startsWith k stem <;> cases s.watchers.get? k <;> simp [Option.filter]

/-- Stores with the same rows outside a stem have the same rows once the others are removed. -/
theorem rows_outside_eq {s t : Store} {stem : String}
    (h : ∀ k, Naming.startsWith k stem = false → t.watchers.get? k = s.watchers.get? k) :
    (t.deleteByStem stem).watchers = (s.deleteByStem stem).watchers := by
  refine Table.ext fun k => ?_
  rw [get?_deleteByStem, get?_deleteByStem]
  cases hk : Naming.startsWith k stem with
  | true => rfl
  | false => rw [h k hk]

end Store

end Watchtower
