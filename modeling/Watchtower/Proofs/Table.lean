import Mathlib.Data.List.Sort
import Mathlib.Tactic.Common
import Watchtower.Table

/-!
Laws of tables: what each operation does to a look-up.

A table is determined by its look-ups (`Table.ext`), so an equation between tables is proved one key
at a time.
-/

namespace Watchtower

namespace Table

variable {α β : Type}

/-! ### Rows -/

theorem find_place (k : String) (v : α) (j : String) :
    ∀ rs : List (String × α), find j (place k v rs) = if k = j then some v else find j rs
  | [] => by simp [place, find]
  | (i, w) :: rs => by
    unfold place
    split
    · simp [find]
    · split
      · next h => subst h; by_cases hj : k = j <;> simp [find, hj]
      · next h =>
        simp only [find, find_place k v j rs]
        by_cases hi : i = j
        · have hk : ¬ k = j := fun e => h (e.trans hi.symm)
          simp [hi, hk]
        · simp [hi]

theorem find_eq_none {k : String} :
    ∀ {rs : List (String × α)}, (∀ r ∈ rs, r.1 ≠ k) → find k rs = none
  | [], _ => rfl
  | (j, w) :: rs, h => by
    have hj : j ≠ k := h (j, w) List.mem_cons_self
    simp only [find, if_neg hj]
    exact find_eq_none fun r hr => h r (List.mem_cons_of_mem _ hr)

theorem mem_of_find {k : String} {v : α} :
    ∀ {rs : List (String × α)}, find k rs = some v → (k, v) ∈ rs
  | (j, w) :: rs, h => by
    by_cases hj : j = k
    · simp only [find, if_pos hj, Option.some.injEq] at h
      subst hj h
      exact List.mem_cons_self
    · simp only [find, if_neg hj] at h
      exact List.mem_cons_of_mem _ (mem_of_find h)

/-- Keys in increasing order are distinct. -/
theorem ne_of_ordered {j : String} {w : α} {rs : List (String × α)}
    (h : ((j, w) :: rs).Pairwise fun r s => r.1 < s.1) : ∀ r ∈ rs, r.1 ≠ j := by
  intro r hr e
  have hlt : j < r.1 := List.rel_of_pairwise_cons h hr
  exact absurd (e ▸ hlt) (String.lt_irrefl j)

theorem find_of_mem {k : String} {v : α} : ∀ {rs : List (String × α)},
    (rs.Pairwise fun r s => r.1 < s.1) → (k, v) ∈ rs → find k rs = some v
  | (j, w) :: rs, h, hm => by
    rcases List.mem_cons.1 hm with e | hm
    · obtain ⟨rfl, rfl⟩ := Prod.mk.inj e
      simp [find]
    · have hj : j ≠ k := fun e => ne_of_ordered h _ hm e.symm
      simp only [find, if_neg hj]
      exact find_of_mem h.of_cons hm

theorem find_filter (keep : String → α → Bool) (k : String) : ∀ {rs : List (String × α)},
    (rs.Pairwise fun r s => r.1 < s.1) →
      find k (rs.filter fun r => keep r.1 r.2) = (find k rs).filter (keep k)
  | [], _ => rfl
  | (j, w) :: rs, h => by
    by_cases hj : j = k
    · subst hj
      by_cases hk : keep j w
      · simp [find, Option.filter, hk]
      · have hn : find j (rs.filter fun r => keep r.1 r.2) = none :=
          find_eq_none fun r hr => ne_of_ordered h r (List.mem_filter.1 hr).1
        simp [find, Option.filter, hk, hn]
    · by_cases hk : keep j w <;> simp [find, hk, hj, find_filter keep k h.of_cons]

theorem find_map (f : String → α → β) (k : String) : ∀ rs : List (String × α),
    find k (rs.map fun r => (r.1, f r.1 r.2)) = (find k rs).map (f k)
  | [] => rfl
  | (j, w) :: rs => by
    by_cases hj : j = k
    · subst hj; simp [find]
    · simp [find, hj, find_map f k rs]

/-! ### Look-ups -/

@[simp] theorem get?_empty (k : String) : (empty : Table α).get? k = none := rfl

theorem get?_eq_some_iff {t : Table α} {k : String} {v : α} :
    t.get? k = some v ↔ (k, v) ∈ t.rows :=
  ⟨mem_of_find, find_of_mem t.ordered⟩

theorem get?_put (t : Table α) (k : String) (v : α) (j : String) :
    (t.put k v).get? j = if k = j then some v else t.get? j := find_place k v j t.rows

@[simp] theorem get?_put_self (t : Table α) (k : String) (v : α) : (t.put k v).get? k = some v := by
  simp [get?_put]

theorem get?_filter (t : Table α) (keep : String → α → Bool) (k : String) :
    (t.filter keep).get? k = (t.get? k).filter (keep k) := find_filter keep k t.ordered

theorem get?_erase (t : Table α) (k j : String) :
    (t.erase k).get? j = if k = j then none else t.get? j := by
  rw [erase, get?_filter]
  by_cases h : k = j
  · subst h; cases t.get? k <;> simp [Option.filter]
  · have hj : (j != k) = true := by simpa using Ne.symm h
    cases t.get? j <;> simp [Option.filter, h, hj]

theorem get?_modify (t : Table α) (k : String) (f : α → α) (j : String) :
    (t.modify k f).get? j = if k = j then (t.get? j).map f else t.get? j := by
  have h := find_map (fun i v => if i = k then f v else v) j t.rows
  refine h.trans ?_
  by_cases hj : k = j
  · simp [hj, get?]
  · have hj' : ¬ j = k := fun e => hj e.symm
    simp [hj, hj', get?]

/-- A table is determined by its look-ups. -/
theorem ext {s t : Table α} (h : ∀ k, s.get? k = t.get? k) : s = t := by
  have hne : ∀ {a b : String × α}, a.1 < b.1 → a ≠ b := fun hab e =>
    String.lt_irrefl _ (e ▸ hab)
  have hperm : s.rows.Perm t.rows := by
    refine (List.perm_ext_iff_of_nodup (s.ordered.imp hne) (t.ordered.imp hne)).2 fun r => ?_
    rw [← get?_eq_some_iff, h, get?_eq_some_iff]
  have hrows : s.rows = t.rows :=
    hperm.eq_of_pairwise (fun a b _ _ hab hba => absurd (String.lt_trans hab hba)
      (String.lt_irrefl a.1)) s.ordered t.ordered
  cases s; cases t
  simpa using hrows

theorem modify_put (t : Table α) (k : String) (v : α) (f : α → α) :
    (t.put k v).modify k f = t.put k (f v) := by
  refine ext fun j => ?_
  rw [get?_modify, get?_put, get?_put]
  split <;> simp

/-- A test that admits every row changes nothing. -/
theorem filter_eq_self {t : Table α} {keep : String → α → Bool}
    (h : ∀ k v, t.get? k = some v → keep k v = true) : t.filter keep = t := by
  refine ext fun k => ?_
  rw [get?_filter]
  cases hk : t.get? k with
  | none => rfl
  | some v => simp [Option.filter, h k v hk]

/-- No row is left exactly if the test admits none. -/
theorem size_filter_eq_zero {t : Table α} {keep : String → α → Bool} :
    (t.filter keep).size = 0 ↔ ∀ k v, t.get? k = some v → keep k v = false := by
  simp only [size, filter, List.length_eq_zero_iff, List.filter_eq_nil_iff, Bool.not_eq_true,
    get?_eq_some_iff, Prod.forall]

/-! ### Keys and values -/

theorem mem_keys {t : Table α} {k : String} : k ∈ t.keys ↔ ∃ v, t.get? k = some v := by
  simp only [keys, List.mem_map, Prod.exists, get?_eq_some_iff, exists_and_right,
    exists_eq_right]

theorem mem_values {t : Table α} {v : α} : v ∈ t.values ↔ ∃ k, t.get? k = some v := by
  simp only [values, List.mem_map, Prod.exists, get?_eq_some_iff, exists_eq_right]

theorem keys_ordered (t : Table α) : t.keys.Pairwise (· < ·) := by
  rw [keys, List.pairwise_map]
  exact t.ordered

theorem length_values (t : Table α) : t.values.length = t.size := by simp [values, size]

/-- Two increasing lists of texts with the same members are the same list. -/
theorem eq_of_ordered {ks ls : List String} (hk : ks.Pairwise (· < ·)) (hl : ls.Pairwise (· < ·))
    (h : ∀ k, k ∈ ks ↔ k ∈ ls) : ks = ls := hk.eq_of_mem_iff hl h

/-! ### Mapping -/

/-- Changes every row and keeps the keys. -/
def map (f : α → β) (t : Table α) : Table β :=
  ⟨t.rows.map fun r => (r.1, f r.2), by
    rw [List.pairwise_map]
    exact t.ordered⟩

@[simp] theorem get?_map (f : α → β) (t : Table α) (k : String) :
    (t.map f).get? k = (t.get? k).map f := find_map (fun _ => f) k t.rows

@[simp] theorem map_empty (f : α → β) : (empty : Table α).map f = empty := rfl

theorem map_put (f : α → β) (t : Table α) (k : String) (v : α) :
    (t.put k v).map f = (t.map f).put k (f v) := by
  refine ext fun j => ?_
  simp only [get?_map, get?_put]
  split <;> rfl

theorem keys_map (f : α → β) (t : Table α) : (t.map f).keys = t.keys := by
  simp [map, keys, List.map_map, Function.comp_def]

theorem values_map (f : α → β) (t : Table α) : (t.map f).values = t.values.map f := by
  simp [map, values, List.map_map, Function.comp_def]

theorem size_map (f : α → β) (t : Table α) : (t.map f).size = t.size := by simp [map, size]

/-! ### Building from a list -/

theorem get?_foldl_put (k : String) : ∀ {rs : List (String × α)} (t : Table α),
    (rs.Pairwise fun r s => r.1 ≠ s.1) →
      (rs.foldl (fun t r => t.put r.1 r.2) t).get? k = (find k rs).or (t.get? k)
  | [], t, _ => by simp [find]
  | (j, w) :: rs, t, h => by
    rw [List.foldl_cons, get?_foldl_put k (t.put j w) h.of_cons, get?_put]
    by_cases hj : j = k
    · have hn : find k rs = none :=
        find_eq_none fun r hr e => List.rel_of_pairwise_cons h hr (hj.trans e.symm)
      simp [find, hj, hn]
    · simp [find, hj]

theorem get?_ofList {rs : List (String × α)} (h : rs.Pairwise fun r s => r.1 ≠ s.1) (k : String) :
    (ofList rs).get? k = find k rs := by
  rw [ofList, get?_foldl_put k empty h]
  simp

/-- Whatever is in a table built from a list is in the list. -/
theorem mem_of_get?_ofList {rs : List (String × α)} {k : String} {v : α}
    (h : (ofList rs).get? k = some v) : (k, v) ∈ rs := by
  suffices hfold : ∀ t : Table α, (rs.foldl (fun t r => t.put r.1 r.2) t).get? k = some v →
      (k, v) ∈ rs ∨ t.get? k = some v from (hfold .empty h).resolve_right (by simp)
  clear h
  induction rs with
  | nil => exact fun t h => .inr h
  | cons r rs ih =>
    intro t h
    rcases ih _ h with hrs | hput
    · exact .inl (List.mem_cons_of_mem r hrs)
    · rw [get?_put] at hput
      split at hput
      · next hk =>
        obtain rfl := Option.some.inj hput
        subst hk
        exact .inl List.mem_cons_self
      · exact .inr hput

/-- A list of rows that agree wherever their keys do gives a table of just these rows. -/
theorem get?_ofList_of_agree {rs : List (String × α)}
    (h : ∀ r ∈ rs, ∀ s ∈ rs, r.1 = s.1 → r = s) {k : String} {v : α} :
    (ofList rs).get? k = some v ↔ (k, v) ∈ rs := by
  refine ⟨mem_of_get?_ofList, fun hm => ?_⟩
  suffices hsome : ∀ (ss : List (String × α)) (t : Table α), (∃ w, (k, w) ∈ ss) ∨ (t.get? k).isSome →
      ((ss.foldl (fun t r => t.put r.1 r.2) t).get? k).isSome by
    obtain ⟨w, hw⟩ := Option.isSome_iff_exists.1 (hsome rs .empty (.inl ⟨v, hm⟩))
    have hrow := h _ (mem_of_get?_ofList hw) _ hm rfl
    rw [ofList, hw, (Prod.mk.inj hrow).2]
  intro ss
  induction ss with
  | nil => simp
  | cons r ss ih =>
    intro t ht
    rw [List.foldl_cons]
    apply ih
    rw [get?_put]
    by_cases hk : r.1 = k
    · exact .inr (by simp [hk])
    · rcases ht with ⟨w, hw⟩ | ht
      · rcases List.mem_cons.1 hw with rfl | hw
        · exact absurd rfl hk
        · exact .inl ⟨w, hw⟩
      · exact .inr (by simpa [hk] using ht)

/-- A list of rows with increasing keys gives a table of just these rows. -/
theorem get?_ofList_iff {rs : List (String × α)} (h : rs.Pairwise fun r s => r.1 < s.1) {k : String}
    {v : α} : (ofList rs).get? k = some v ↔ (k, v) ∈ rs := by
  have hne : ∀ {r s : String × α}, r.1 < s.1 → r.1 ≠ s.1 := fun {r s} hrs e =>
    String.lt_irrefl s.1 (e ▸ hrs)
  refine ⟨mem_of_get?_ofList, fun hm => ?_⟩
  rw [get?_ofList (h.imp hne)]
  exact find_of_mem h hm

theorem keys_ofList {rs : List (String × α)} (h : rs.Pairwise fun r s => r.1 < s.1) :
    (ofList rs).keys = rs.map (·.1) := by
  refine eq_of_ordered (keys_ordered _) (List.pairwise_map.2 h) fun k => ?_
  simp only [mem_keys, get?_ofList_iff h, List.mem_map, Prod.exists, exists_and_right,
    exists_eq_right]

end Table

end Watchtower
