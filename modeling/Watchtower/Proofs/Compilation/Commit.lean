import Mathlib.Tactic.Common
import Watchtower.Compilation
import Watchtower.Proofs.Compilation.Plan

/-!
What a commit leaves in the store.

A commit that no failure ends carries out all its writes, and no two writes of a difference are
about one id, so the row under an id is decided by the one write about it. Under the stem of the
composition the planned rules are left and nothing else (`Write.rules_of_planned`,
`Write.not_intact_of_unplanned`); outside the stem nothing changes.
-/

namespace Watchtower

open Traced

namespace Write

/-- The id whose row the write is about. -/
def id : Write → String
  | .remove id => id
  | .replace w | .create w => w.id

/-- What is under the id afterwards. -/
def row? : Write → Option (Row Watcher)
  | .remove _ => none
  | .replace w | .create w => some (.intact w)

/-- The store once the write is carried out. -/
def apply (s : Store) : Write → Store
  | .remove id => s.delete id
  | .replace w | .create w => s.write w

/-- The write as a change of the store. -/
def change : Write → StoreChange
  | .remove id => .delete id
  | .replace w | .create w => .createOrReplace w

theorem get?_apply (s : Store) (w : Write) (k : String) :
    (w.apply s).watchers.get? k = if w.id = k then w.row? else s.watchers.get? k := by
  cases w with
  | remove id => exact Table.get?_erase s.watchers id k
  | replace v | create v => exact Table.get?_put s.watchers v.id _ k

@[simp] theorem cursors_apply (s : Store) (w : Write) : (w.apply s).cursors = s.cursors := by
  cases w <;> rfl

/-- The call of the store that carries the write out. -/
def call : Write → StoreCall
  | .remove id => .delete id
  | .replace w | .create w => .createOrReplace w.id

/-- Why the store refuses the write, if it does. -/
def fault? : Write → Option StoreFault
  | .remove _ => none
  | .replace w | .create w => Store.fault? w

/-- The write changes a row: a removal may find none. -/
def changes (s : Store) : Write → Bool
  | .remove id => s.watchers.contains id
  | .replace _ | .create _ => true

theorem result_put (v : Watcher) (s : Store) (o : Outage) : (do
    let (s, _) ← (Access.mk s o).createOrReplace v
    return (s, true) : Traced (Store × Bool)).result =
      match (o (.createOrReplace v.id)).or (Store.fault? v) with
      | some f => .error f
      | none => .ok (s.write v, true) := by
  simp only [Access.createOrReplace, Access.attempt, Store.createOrReplace]
  cases o (.createOrReplace v.id) with
  | some f => rfl
  | none =>
    cases Store.fault? v with
    | some f => rfl
    | none =>
      cases s.watchers.get? v.id with
      | none => rfl
      | some r => cases r <;> rfl

/-- A write fails if its call does or if the store refuses it, and is carried out otherwise. -/
theorem result_perform (w : Write) (s : Store) (o : Outage) :
    (w.perform ⟨s, o⟩).result = match (o w.call).or w.fault? with
      | some f => .error f
      | none => .ok (w.apply s, w.changes s) := by
  cases w with
  | remove id =>
    simp only [perform, Access.delete, Access.attempt, call, fault?, Option.or_none]
    cases o (.delete id) with
    | some f => rfl
    | none => cases hc : s.watchers.contains id <;> simp [hc, apply, changes, result_bind, Except.bind]
  | replace v | create v => exact result_put v s o

/-- A write that the store does not refuse is one of its changes. -/
theorem apply_eq_change {w : Write} (s : Store) (h : w.fault? = none) :
    w.apply s = s.apply w.change := by
  cases w with
  | remove id => rfl
  | replace v | create v =>
    have hv : Store.fault? v = none := h
    simp only [apply, change, Store.apply, Store.createOrReplace, hv, Store.accept]

/-- What a write changes is not touched by a write about another id. -/
theorem changes_apply_of_ne {v w : Write} (s : Store) (h : w.id ≠ v.id) :
    v.changes (w.apply s) = v.changes s := by
  cases v with
  | remove id => simp only [changes, Table.contains, get?_apply, if_neg (show ¬w.id = id from h)]
  | replace _ | create _ => rfl

end Write

/-! ### Runs of writes -/

namespace Commit

variable {o : Outage}

theorem foldl_step_of_fault {c : Commit} {f : StoreFault} (h : c.fault = some f)
    (ws : List Write) : ws.foldl (step o) c = c := by
  induction ws with
  | nil => rfl
  | cons w ws ih =>
    have hstep : step o c w = c := by simp only [step, h]
    rw [List.foldl_cons, hstep, ih]

/-- A write that fails ends the commit and leaves the store as it is. -/
theorem step_of_fault {c : Commit} (hc : c.fault = none) {w : Write} {f : StoreFault}
    (h : (o w.call).or w.fault? = some f) :
    (step o c w).fault = some f ∧ (step o c w).store = c.store := by
  simp only [step, hc, Write.result_perform, h, and_self]

/-- Any other write is carried out, and noted if it changes a row. -/
theorem step_of_works {c : Commit} (hc : c.fault = none) {w : Write}
    (h : (o w.call).or w.fault? = none) :
    (step o c w).fault = none ∧ (step o c w).store = w.apply c.store ∧
      (step o c w).performed = c.performed ++ [w].filter fun w => w.changes c.store := by
  simp only [step, hc, Write.result_perform, h]
  cases hw : w.changes c.store <;> simp [hw]

/-- One more write fails and leaves the store as it is, or is carried out. -/
theorem step_cases {c : Commit} (hc : c.fault = none) (w : Write) :
    ((step o c w).fault ≠ none ∧ (step o c w).store = c.store) ∨
    ((step o c w).fault = none ∧ (step o c w).store = w.apply c.store ∧
      (step o c w).store = c.store.apply w.change) := by
  cases h : (o w.call).or w.fault? with
  | some f =>
    obtain ⟨hf, hs⟩ := step_of_fault hc h
    exact .inl ⟨by simp [hf], hs⟩
  | none =>
    obtain ⟨hf, hs, -⟩ := step_of_works hc h
    exact .inr ⟨hf, hs, hs.trans (Write.apply_eq_change _ (Option.or_eq_none_iff.1 h).2)⟩

/-- A commit that no failure ends has carried out all its writes. -/
theorem store_foldl_step (ws : List Write) {c : Commit} (hc : c.fault = none)
    (h : (ws.foldl (step o) c).fault = none) :
    (ws.foldl (step o) c).store = ws.foldl Write.apply c.store := by
  induction ws generalizing c with
  | nil => rfl
  | cons w ws ih =>
    rw [List.foldl_cons] at h ⊢
    rcases step_cases (o := o) hc w with ⟨hf, -⟩ | ⟨hf, hs, -⟩
    · obtain ⟨f, hf⟩ := Option.ne_none_iff_exists'.1 hf
      rw [foldl_step_of_fault hf, hf] at h
      cases h
    · rw [ih hf h, hs, List.foldl_cons]

theorem store_run {s : Store} {ws : List Write} (h : (run o s ws).fault = none) :
    (run o s ws).store = ws.foldl Write.apply s := store_foldl_step ws rfl h

/-- However a commit ends, its store has been reached by changes. -/
theorem reachable_foldl_step (ws : List Write) {c : Commit} (h : c.store.Reachable) :
    (ws.foldl (step o) c).store.Reachable := by
  induction ws generalizing c with
  | nil => exact h
  | cons w ws ih =>
    rw [List.foldl_cons]
    apply ih
    cases hc : c.fault with
    | some f => simpa only [step, hc] using h
    | none =>
      rcases step_cases (o := o) hc w with ⟨-, hs⟩ | ⟨-, -, hs⟩
      · exact hs ▸ h
      · exact hs ▸ h.apply w.change

theorem reachable_run {s : Store} (h : s.Reachable) (ws : List Write) :
    (run o s ws).store.Reachable := reachable_foldl_step ws h

/-- Writes of which none fails are all carried out. -/
theorem foldl_step_of_works (ws : List Write) {c : Commit} (hc : c.fault = none)
    (h : ∀ w ∈ ws, (o w.call).or w.fault? = none) :
    (ws.foldl (step o) c).fault = none ∧
      (ws.foldl (step o) c).store = ws.foldl Write.apply c.store := by
  induction ws generalizing c with
  | nil => exact ⟨hc, rfl⟩
  | cons w ws ih =>
    obtain ⟨hf, hs, -⟩ := step_of_works hc (h w List.mem_cons_self)
    rw [List.foldl_cons, List.foldl_cons, ← hs]
    exact ih hf fun v hv => h v (List.mem_cons_of_mem _ hv)

/-- A commit ends with the first write that fails, all before it carried out. -/
theorem run_of_fault (s : Store) {done : List Write} {w : Write} {f : StoreFault}
    (rest : List Write) (hdone : ∀ v ∈ done, (o v.call).or v.fault? = none)
    (hw : (o w.call).or w.fault? = some f) :
    (run o s (done ++ w :: rest)).fault = some f ∧
      (run o s (done ++ w :: rest)).store = done.foldl Write.apply s := by
  obtain ⟨hf, hs⟩ := foldl_step_of_works done (c := ⟨s, [], none, []⟩) rfl hdone
  obtain ⟨hf', hs'⟩ := step_of_fault hf hw
  rw [run, List.foldl_append, List.foldl_cons, foldl_step_of_fault hf']
  exact ⟨hf', hs'.trans hs⟩

/-- However a commit ends, it has carried out the writes up to some place in the list. -/
theorem exists_done {o : Outage} (ws : List Write) {c : Commit} (hc : c.fault = none) :
    ∃ done : List Write, done.Sublist ws ∧
      (ws.foldl (step o) c).store = done.foldl Write.apply c.store := by
  induction ws generalizing c with
  | nil => exact ⟨[], .slnil, rfl⟩
  | cons w ws ih =>
    rw [List.foldl_cons]
    rcases step_cases (o := o) hc w with ⟨hf, hs⟩ | ⟨hf, hs, -⟩
    · obtain ⟨f, hf⟩ := Option.ne_none_iff_exists'.1 hf
      exact ⟨[], List.nil_sublist _, by rw [foldl_step_of_fault hf, hs, List.foldl_nil]⟩
    · obtain ⟨done, hdone, hstore⟩ := ih hf
      exact ⟨w :: done, hdone.cons_cons w, by rw [hstore, hs, List.foldl_cons]⟩

/-- Writes about different ids, of which each changes a row, are all noted. -/
theorem performed_foldl_step (ws : List Write) {c : Commit} (hc : c.fault = none)
    (hp : ws.Pairwise fun v w => v.id ≠ w.id) (h : ∀ w ∈ ws, (o w.call).or w.fault? = none)
    (hchanges : ∀ w ∈ ws, w.changes c.store = true) :
    (ws.foldl (step o) c).performed = c.performed ++ ws := by
  induction ws generalizing c with
  | nil => simp
  | cons w ws ih =>
    obtain ⟨hf, hs, hperformed⟩ := step_of_works hc (h w List.mem_cons_self)
    have hthere : ∀ v ∈ ws, v.changes (step o c w).store = true := by
      intro v hv
      rw [hs, Write.changes_apply_of_ne _ (List.rel_of_pairwise_cons hp hv)]
      exact hchanges v (List.mem_cons_of_mem _ hv)
    rw [List.foldl_cons, ih hf hp.of_cons (fun v hv => h v (List.mem_cons_of_mem _ hv)) hthere,
      hperformed]
    simp [hchanges w List.mem_cons_self]

/-- A commit whose writes all work does them all. -/
theorem run_of_works (s : Store) (ws : List Write) (h : ∀ w ∈ ws, (o w.call).or w.fault? = none)
    (hp : ws.Pairwise fun v w => v.id ≠ w.id) (hchanges : ∀ w ∈ ws, w.changes s = true) :
    (run o s ws).fault = none ∧ (run o s ws).store = ws.foldl Write.apply s ∧
      (run o s ws).performed = ws := by
  obtain ⟨hfault, hstore⟩ := foldl_step_of_works ws (c := ⟨s, [], none, []⟩) rfl h
  exact ⟨hfault, hstore, performed_foldl_step ws (c := ⟨s, [], none, []⟩) rfl hp h hchanges⟩

/-- None of the writes of a commit that no failure ends has failed. -/
theorem works_of_run (ws : List Write) {c : Commit} (hc : c.fault = none)
    (h : (ws.foldl (step o) c).fault = none) : ∀ w ∈ ws, (o w.call).or w.fault? = none := by
  induction ws generalizing c with
  | nil => simp
  | cons w ws ih =>
    rw [List.foldl_cons] at h
    cases hw : (o w.call).or w.fault? with
    | some f =>
      obtain ⟨hf, -⟩ := step_of_fault hc hw
      rw [foldl_step_of_fault hf, hf] at h
      cases h
    | none =>
      obtain ⟨hf, -⟩ := step_of_works hc hw
      exact List.forall_mem_cons.2 ⟨hw, ih hf h⟩

/-- The counts of a commit count what it has performed. -/
theorem touched_eq (c : Commit) : c.created + c.replaced + c.deleted = c.performed.length := by
  rw [created, replaced, deleted]
  induction c.performed with
  | nil => rfl
  | cons w ws ih => cases w <;> simp <;> omega

end Commit

namespace Write

theorem get?_foldl_of_forall_ne {k : String} {ws : List Write} (s : Store)
    (h : ∀ w ∈ ws, w.id ≠ k) : (ws.foldl apply s).watchers.get? k = s.watchers.get? k := by
  induction ws generalizing s with
  | nil => rfl
  | cons w ws ih =>
    have hw : w.id ≠ k := h w List.mem_cons_self
    rw [List.foldl_cons, ih _ fun v hv => h v (List.mem_cons_of_mem _ hv), get?_apply, if_neg hw]

theorem get?_foldl_of_mem {w : Write} {ws : List Write} (s : Store)
    (hp : ws.Pairwise fun v w => v.id ≠ w.id) (hw : w ∈ ws) :
    (ws.foldl apply s).watchers.get? w.id = w.row? := by
  induction ws generalizing s with
  | nil => cases hw
  | cons v ws ih =>
    rw [List.foldl_cons]
    rcases List.mem_cons.1 hw with rfl | hw
    · rw [get?_foldl_of_forall_ne _ fun u hu => (List.rel_of_pairwise_cons hp hu).symm, get?_apply,
        if_pos rfl]
    · exact ih _ hp.of_cons hw

theorem cursors_foldl (ws : List Write) (s : Store) : (ws.foldl apply s).cursors = s.cursors := by
  induction ws generalizing s with
  | nil => rfl
  | cons w ws ih => rw [List.foldl_cons, ih, cursors_apply]

/-- Writes that the store does not refuse are changes of it. -/
theorem reachable_foldl (ws : List Write) {s : Store} (hs : s.Reachable)
    (h : ∀ w ∈ ws, w.fault? = none) : (ws.foldl apply s).Reachable := by
  induction ws generalizing s with
  | nil => exact hs
  | cons w ws ih =>
    rw [List.foldl_cons, apply_eq_change s (h w List.mem_cons_self)]
    exact ih (hs.apply _) fun v hv => h v (List.mem_cons_of_mem _ hv)

/-- Writes about different ids lead to one store in any order. -/
theorem foldl_apply_perm {ws ws' : List Write} (h : ws.Perm ws') (s : Store)
    (hp : ws.Pairwise fun v w => v.id ≠ w.id) : ws.foldl apply s = ws'.foldl apply s := by
  have hp' : ws'.Pairwise fun v w => v.id ≠ w.id := h.pairwise hp fun hvw => Ne.symm hvw
  have hrows : (ws.foldl apply s).watchers = (ws'.foldl apply s).watchers := by
    refine Table.ext fun k => ?_
    by_cases hk : ∃ w ∈ ws, w.id = k
    · obtain ⟨w, hw, rfl⟩ := hk
      rw [get?_foldl_of_mem s hp hw, get?_foldl_of_mem s hp' (h.mem_iff.1 hw)]
    · rw [get?_foldl_of_forall_ne s fun w hw e => hk ⟨w, hw, e⟩,
        get?_foldl_of_forall_ne s fun w hw e => hk ⟨w, h.mem_iff.2 hw, e⟩]
  have hcursors := (cursors_foldl ws s).trans (cursors_foldl ws' s).symm
  exact congrArg₂ Store.mk hrows hcursors

/-! ### The writes of a difference -/

variable {existing desired : Table Watcher} {now : Moment} {c : String}

theorem mem_stale {k : String} :
    k ∈ stale existing desired ↔ (∃ v, existing.get? k = some v) ∧ desired.get? k = none := by
  rw [stale, List.mem_filter, Table.mem_keys, Table.contains]
  simp

/-- The write that a planned watcher needs is about its own id and leaves its rule there. -/
theorem of?_spec {w : Watcher} {u : Write} (h : of? existing now w = some u) :
    ∃ v : Watcher, u.row? = some (.intact v) ∧ u.id = w.id ∧ v.id = w.id ∧ v.rule = w.rule := by
  unfold of? at h
  split at h
  · next stored _ =>
    split at h
    · cases h
    · obtain rfl := Option.some.inj h
      exact ⟨carry stored w now, rfl, rfl, rfl, rfl⟩
  · obtain rfl := Option.some.inj h
    exact ⟨w, rfl, rfl, rfl, rfl⟩

theorem of?_eq_none {w : Watcher} :
    of? existing now w = none ↔ ∃ v, existing.get? w.id = some v ∧ v.sameRule w = true := by
  unfold of?
  cases existing.get? w.id with
  | none => simp
  | some v => cases hsame : v.sameRule w <;> simp [hsame]

/-- A difference removes what is stale and writes what planned watchers need, each under its id. -/
theorem mem_plan (hd : Plan.Owned c desired) {u : Write} :
    u ∈ plan existing desired now ↔ (∃ k ∈ stale existing desired, .remove k = u) ∨
      ∃ w, desired.get? u.id = some w ∧ of? existing now w = some u := by
  rw [plan, List.mem_append, List.mem_map, List.mem_filterMap]
  refine or_congr Iff.rfl ⟨?_, ?_⟩
  · rintro ⟨w, hw, hu⟩
    obtain ⟨k, hk⟩ := Table.mem_values.1 hw
    obtain ⟨-, -, hid, -⟩ := of?_spec hu
    obtain ⟨rfl, -⟩ := hd hk
    exact ⟨w, hid ▸ hk, hu⟩
  · rintro ⟨w, hw, hu⟩
    exact ⟨w, Table.mem_values.2 ⟨_, hw⟩, hu⟩

/-- Where all planned watchers are fit to be stored, so are all that are written. -/
theorem fault?_of_mem_plan (hd : Plan.Owned c desired)
    (hfit : ∀ k w, desired.get? k = some w → w.defect? = none) {u : Write}
    (hu : u ∈ plan existing desired now) : u.fault? = none := by
  rcases (mem_plan hd).1 hu with ⟨k, -, rfl⟩ | ⟨w, hw, hof⟩
  · rfl
  · obtain ⟨v, hrow, -, hid, hrule⟩ := of?_spec hof
    have hv : v.defect? = none := by
      rw [Watcher.defect?, hid, hrule]
      exact hfit _ w hw
    cases u with
    | remove k => rfl
    | replace v' | create v' =>
      obtain rfl := Row.intact.inj (Option.some.inj hrow)
      exact Store.fault?_eq_none.2 hv

/-- No two writes of a difference are about one id. -/
theorem plan_pairwise (hd : Plan.Owned c desired) :
    (plan existing desired now).Pairwise fun v w => v.id ≠ w.id := by
  rw [plan, List.pairwise_append]
  refine ⟨?_, ?_, ?_⟩
  · rw [List.pairwise_map]
    refine (existing.keys_ordered.filter _).imp fun {a b} hab e => ?_
    exact String.lt_irrefl b ((show a = b from e) ▸ hab)
  · rw [List.pairwise_filterMap, Table.values, List.pairwise_map]
    refine desired.ordered.imp_of_mem fun {a b} ha hb hab v hv w hw e => ?_
    obtain ⟨-, -, hva, -⟩ := of?_spec hv
    obtain ⟨-, -, hwb, -⟩ := of?_spec hw
    have hai : a.2.id = a.1 := (hd (Table.get?_eq_some_iff.2 ha)).1
    have hbi : b.2.id = b.1 := (hd (Table.get?_eq_some_iff.2 hb)).1
    have hid : a.1 = b.1 := by rw [← hai, ← hbi, ← hva, ← hwb, e]
    exact String.lt_irrefl b.1 (hid ▸ hab)
  · intro v hv w hw e
    obtain ⟨k, hk, rfl⟩ := List.mem_map.1 hv
    obtain ⟨d, hdm, hdw⟩ := List.mem_filterMap.1 hw
    obtain ⟨j, hj⟩ := Table.mem_values.1 hdm
    obtain ⟨-, -, hwd, -⟩ := of?_spec hdw
    have hkj : k = j := (show k = w.id from e).trans (hwd.trans (hd hj).1)
    have hn := (mem_stale.1 hk).2
    rw [hkj, hj] at hn
    cases hn

/-- Every write of a difference is about an id under the stem. -/
theorem startsWith_of_mem_plan (hd : Plan.Owned c desired)
    (he : ∀ {k v}, existing.get? k = some v → Naming.startsWith k (Naming.edgeStem c) = true)
    {u : Write} (hu : u ∈ plan existing desired now) :
    Naming.startsWith u.id (Naming.edgeStem c) = true := by
  rcases (mem_plan hd).1 hu with ⟨k, hk, rfl⟩ | ⟨w, hw, -⟩
  · obtain ⟨⟨v, hv⟩, -⟩ := mem_stale.1 hk
    exact he hv
  · exact (hd hw).2

end Write

/-! ### What a difference leaves in the store -/

/-- The rule that is left where one is planned: the stored one if it states the same. -/
def Rule.settled (stored : Option Rule) (planned : Rule) : Rule :=
  match stored with
  | some r => if r.same planned then r else planned
  | none => planned

theorem Rule.settled_cases (stored : Option Rule) (planned : Rule) :
    settled stored planned = planned ∨ (settled stored planned).same planned = true := by
  unfold settled
  split
  · split
    · next h => exact .inr h
    · exact .inl rfl
  · exact .inl rfl

theorem Rule.settled_of_not_same {stored : Option Rule} {planned : Rule}
    (h : ∀ r ∈ stored, r.same planned = false) : settled stored planned = planned := by
  cases stored with
  | none => rfl
  | some r => simp [settled, h r rfl]

/-- What has been settled once is settled. -/
theorem Rule.settled_settled (stored : Option Rule) (planned : Rule) :
    settled (some (settled stored planned)) planned = settled stored planned := by
  rcases settled_cases stored planned with h | h
  · rw [h]
    simp [settled]
  · conv_lhs => rw [settled]
    simp [h]

/-- The rule of the intact row under an id. -/
def Store.rule? (s : Store) (id : String) : Option Rule :=
  ((s.watchers.get? id).bind Row.value?).map (·.rule)

theorem Store.rule?_eq_some {s : Store} {id : String} {r : Rule} :
    s.rule? id = some r ↔ ∃ w, s.watchers.get? id = some (.intact w) ∧ w.rule = r := by
  unfold rule?
  rcases s.watchers.get? id with - | w | -
  · simp
  · simp [Row.value?]
  · simp [Row.value?]

namespace System

/-- The stored watchers of a stem by their ids. -/
theorem get?_byId {s : Store} (hs : s.Sound) {stem k : String} {w : Watcher} :
    (byId (s.listByStem stem)).get? k = some w ↔ w ∈ s.listByStem stem ∧ w.id = k := by
  have hlt : ((s.listByStem stem).map fun w => (w.id, w)).Pairwise fun r t => r.1 < t.1 := by
    rw [List.pairwise_map]
    exact List.pairwise_map.1 (Store.scan_ordered hs _)
  have hne : ∀ {r t : String × Watcher}, r.1 < t.1 → r.1 ≠ t.1 := fun {r t} hrt e =>
    String.lt_irrefl t.1 (e ▸ hrt)
  rw [byId, Table.get?_ofList (hlt.imp hne)]
  constructor
  · intro h
    obtain ⟨v, hv, e⟩ := List.mem_map.1 (Table.mem_of_find h)
    obtain ⟨rfl, rfl⟩ := Prod.mk.inj e
    exact ⟨hv, rfl⟩
  · rintro ⟨hw, rfl⟩
    exact Table.find_of_mem hlt (List.mem_map.2 ⟨w, hw, rfl⟩)

theorem get?_byId_eq_some {s : Store} (hs : s.Sound) {stem k : String} {w : Watcher} :
    (byId (s.listByStem stem)).get? k = some w ↔
      s.watchers.get? k = some (.intact w) ∧ Naming.startsWith k stem = true := by
  rw [get?_byId hs, Store.mem_listByStem hs]
  constructor
  · rintro ⟨⟨hrow, hstem⟩, rfl⟩
    exact ⟨hrow, hstem⟩
  · rintro ⟨hrow, hstem⟩
    obtain ⟨rfl, -⟩ := hs.watcher hrow
    exact ⟨⟨hrow, hstem⟩, rfl⟩

end System

namespace Write

variable {s : Store} {desired : Table Watcher} {now : Moment} {c : String}

/-- The writes that bring what is stored for a composition to what is planned for it. -/
abbrev toward (s : Store) (c : String) (desired : Table Watcher) (now : Moment) : List Write :=
  plan (System.byId (s.listByStem (Naming.edgeStem c))) desired now

/-- A planned watcher needs no write where a rule is stored that states the same. -/
theorem of?_toward_eq_none (now : Moment) (hs : s.Sound) {w : Watcher}
    (hstem : Naming.startsWith w.id (Naming.edgeStem c) = true) :
    of? (System.byId (s.listByStem (Naming.edgeStem c))) now w = none ↔
      ∃ r, s.rule? w.id = some r ∧ r.same w.rule = true := by
  simp only [of?_eq_none, System.get?_byId_eq_some hs, hstem, and_true, Store.rule?_eq_some,
    Watcher.sameRule, Bool.and_eq_true, beq_iff_eq]
  constructor
  · rintro ⟨v, hv, -, hsame⟩
    exact ⟨v.rule, ⟨v, hv, rfl⟩, hsame⟩
  · rintro ⟨r, ⟨v, hv, rfl⟩, hsame⟩
    exact ⟨v, hv, (hs.watcher hv).1, hsame⟩

/-- Under a planned id the planned rule is left, or the stored one that states the same. -/
theorem row_of_planned (now : Moment) (hs : s.Sound) (hd : Plan.Owned c desired) {k : String} {w : Watcher}
    (hw : desired.get? k = some w) :
    ∃ v : Watcher, ((toward s c desired now).foldl apply s).watchers.get? k = some (.intact v) ∧
      v.rule = Rule.settled (s.rule? k) w.rule := by
  obtain ⟨rfl, hstem⟩ := hd hw
  have hnone := of?_toward_eq_none now hs hstem
  cases hu : of? (System.byId (s.listByStem (Naming.edgeStem c))) now w with
  | some u =>
    obtain ⟨v, hrow, hid, -, hrule⟩ := of?_spec hu
    have hin : u ∈ toward s c desired now := (mem_plan hd).2 (.inr ⟨w, hid ▸ hw, hu⟩)
    refine ⟨v, ?_, ?_⟩
    · rw [← hid, get?_foldl_of_mem s (plan_pairwise hd) hin, hrow]
    · rw [hrule, Rule.settled_of_not_same]
      intro r hr
      rw [Bool.eq_false_iff]
      intro hsame
      rw [hnone.2 ⟨r, hr, hsame⟩] at hu
      cases hu
  | none =>
    obtain ⟨r, hr, hsame⟩ := hnone.1 hu
    obtain ⟨v, hv, rfl⟩ := Store.rule?_eq_some.1 hr
    refine ⟨v, ?_, by rw [hr, Rule.settled, if_pos hsame]⟩
    rw [get?_foldl_of_forall_ne s, hv]
    intro u hin e
    rcases (mem_plan hd).1 hin with ⟨k, hk, rfl⟩ | ⟨d, hdu, hof⟩
    · have hn := (mem_stale.1 hk).2
      rw [show k = w.id from e, hw] at hn
      cases hn
    · rw [e, hw] at hdu
      obtain rfl := Option.some.inj hdu
      rw [hu] at hof
      cases hof

theorem rules_of_planned (hs : s.Sound) (hd : Plan.Owned c desired) {k : String} {w : Watcher}
    (hw : desired.get? k = some w) :
    ∃ v : Watcher, ((toward s c desired now).foldl apply s).watchers.get? k = some (.intact v) ∧
      (v.rule = w.rule ∨ v.rule.same w.rule = true) := by
  obtain ⟨v, hv, hrule⟩ := row_of_planned now hs hd hw
  exact ⟨v, hv, hrule ▸ Rule.settled_cases ..⟩

/-- Under the stem no intact row is left that is not planned. -/
theorem not_intact_of_unplanned (hs : s.Sound) (hd : Plan.Owned c desired) {k : String}
    (hk : Naming.startsWith k (Naming.edgeStem c) = true) (hw : desired.get? k = none)
    (v : Watcher) :
    ((toward s c desired now).foldl apply s).watchers.get? k ≠ some (.intact v) := by
  intro hv
  by_cases hin : ∃ u ∈ toward s c desired now, u.id = k
  · -- the one write about the id removes its row
    obtain ⟨u, hin, rfl⟩ := hin
    rw [get?_foldl_of_mem s (plan_pairwise hd) hin] at hv
    rcases (mem_plan hd).1 hin with ⟨j, -, rfl⟩ | ⟨d, hdu, -⟩
    · cases hv
    · rw [hw] at hdu
      cases hdu
  · -- an intact row that nothing is planned for would have been stale
    rw [get?_foldl_of_forall_ne s fun u hu e => hin ⟨u, hu, e⟩] at hv
    have hstale : k ∈ stale (System.byId (s.listByStem (Naming.edgeStem c))) desired :=
      mem_stale.2 ⟨⟨v, (System.get?_byId_eq_some hs).2 ⟨hv, hk⟩⟩, hw⟩
    exact hin ⟨.remove k, (mem_plan hd).2 (.inl ⟨k, hstale, rfl⟩), rfl⟩

/-- The rules left under the stem, as a function of the stored and of the planned ones. -/
theorem rule?_toward (hs : s.Sound) (hd : Plan.Owned c desired) {k : String}
    (hk : Naming.startsWith k (Naming.edgeStem c) = true) :
    ((toward s c desired now).foldl apply s).rule? k =
      ((desired.get? k).map (·.rule)).map (Rule.settled (s.rule? k)) := by
  cases hw : desired.get? k with
  | none =>
    rw [Option.map_none, Option.map_none, Option.eq_none_iff_forall_ne_some]
    intro r hr
    obtain ⟨v, hv, -⟩ := Store.rule?_eq_some.1 hr
    exact not_intact_of_unplanned hs hd hk hw v hv
  | some w =>
    obtain ⟨v, hv, hrule⟩ := row_of_planned now hs hd hw
    rw [Option.map_some, Option.map_some, Store.rule?_eq_some.2 ⟨v, hv, hrule⟩]

/-- Under an id something is written unless what is stored and what is planned agree. -/
theorem exists_mem_toward_iff (now : Moment) (hs : s.Sound) (hd : Plan.Owned c desired) {k : String}
    (hk : Naming.startsWith k (Naming.edgeStem c) = true) :
    (∃ u ∈ toward s c desired now, u.id = k) ↔
      sameOption Rule.same (s.rule? k) ((desired.get? k).map (·.rule)) = false := by
  have hstale : k ∈ stale (System.byId (s.listByStem (Naming.edgeStem c))) desired ↔
      (∃ r, s.rule? k = some r) ∧ desired.get? k = none := by
    simp [mem_stale, System.get?_byId_eq_some hs, hk, Store.rule?_eq_some]
  have hmem : (∃ u ∈ toward s c desired now, u.id = k) ↔
      k ∈ stale (System.byId (s.listByStem (Naming.edgeStem c))) desired ∨
        ∃ w, desired.get? k = some w ∧
          of? (System.byId (s.listByStem (Naming.edgeStem c))) now w ≠ none := by
    constructor
    · rintro ⟨u, hu, rfl⟩
      rcases (mem_plan hd).1 hu with ⟨j, hj, rfl⟩ | ⟨w, hw, hof⟩
      · exact .inl hj
      · exact .inr ⟨w, hw, by simp [hof]⟩
    · rintro (hj | ⟨w, hw, hof⟩)
      · exact ⟨.remove k, (mem_plan hd).2 (.inl ⟨k, hj, rfl⟩), rfl⟩
      · obtain ⟨u, hu⟩ := Option.ne_none_iff_exists'.1 hof
        obtain ⟨-, -, hid, -⟩ := of?_spec hu
        have huk : u.id = k := hid.trans (hd hw).1
        exact ⟨u, (mem_plan hd).2 (.inr ⟨w, huk ▸ hw, hu⟩), huk⟩
  rw [hmem, hstale]
  cases hw : desired.get? k with
  | none => cases s.rule? k <;> simp [sameOption]
  | some w =>
    obtain ⟨rfl, hstem⟩ := hd hw
    have hnone := of?_toward_eq_none now hs hstem
    cases hr : s.rule? w.id with
    | none => simp [sameOption, hnone, hr]
    | some r => simp [sameOption, hnone, hr]

/-- Each write of a difference changes a row: there is one to remove wherever one is removed. -/
theorem changes_of_mem_toward (hs : s.Sound) (hd : Plan.Owned c desired) {u : Write}
    (hu : u ∈ toward s c desired now) : u.changes s = true := by
  cases u with
  | remove k =>
    rcases (mem_plan hd).1 hu with ⟨j, hj, e⟩ | ⟨w, -, hof⟩
    · obtain ⟨⟨v, hv⟩, -⟩ := mem_stale.1 hj
      have hrow := ((System.get?_byId_eq_some hs).1 hv).1
      rw [Write.remove.inj e] at hrow
      simp [changes, Table.contains, hrow]
    · obtain ⟨v, hrow, -⟩ := of?_spec hof
      cases hrow
  | replace w | create w => rfl

/-- Outside the stem nothing changes. -/
theorem get?_outside (hs : s.Sound) (hd : Plan.Owned c desired) {k : String}
    (hk : Naming.startsWith k (Naming.edgeStem c) = false) :
    ((toward s c desired now).foldl apply s).watchers.get? k = s.watchers.get? k := by
  refine get?_foldl_of_forall_ne s fun u hu e => ?_
  have hu := startsWith_of_mem_plan hd
    (fun hv => ((System.get?_byId_eq_some hs).1 hv).2) hu
  rw [e, hk] at hu
  cases hu

end Write

end Watchtower
