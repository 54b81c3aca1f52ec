import Mathlib.Tactic.Common
import Watchtower.Proofs.CursorKeys

/-!
The latest of many cursors.

Actions end in any order, and so the cursor of an edge is upserted in any order. What is left is a
cursor of the latest moment of all, and of several such cursors the one that came last
(`Cursor.Latest`, `Store.upserts_latest`). The moment is therefore the same for every order, and
what is older than it can be upserted again without a trace.
-/

namespace Watchtower

namespace Cursor

/-- The cursor is one of the edge. -/
structure OfEdge (composition source target : String) (k : Cursor) : Prop where
  composition : k.composition = composition
  source : k.source = source
  target : k.target = target

theorem OfEdge.key {composition source target : String} {k : Cursor}
    (h : k.OfEdge composition source target) : k.key = keyOf composition source target := by
  rw [Cursor.key, h.composition, h.source, h.target]

/-- Of the cursors with the latest moment of all, the last in the list. -/
def Latest (ks : List Cursor) (k : Cursor) : Prop :=
  ∃ before after, ks = before ++ k :: after ∧
    (∀ b ∈ before, ¬ k.lastAt.Before b.lastAt) ∧ ∀ a ∈ after, a.lastAt.Before k.lastAt

variable {ks ls : List Cursor} {k l : Cursor}

theorem latest_singleton (k : Cursor) : Latest [k] k := ⟨[], [], rfl, nofun, nofun⟩

theorem Latest.mem (h : Latest ks k) : k ∈ ks := by
  obtain ⟨before, after, rfl, -⟩ := h
  exact List.mem_append_right _ List.mem_cons_self

/-- No cursor of the list is later. -/
theorem Latest.not_before (h : Latest ks k) : ∀ l ∈ ks, ¬ k.lastAt.Before l.lastAt := by
  obtain ⟨before, after, rfl, hbefore, hafter⟩ := h
  intro l hl hlater
  rcases List.mem_append.1 hl with hl | hl
  · exact hbefore l hl hlater
  · rcases List.mem_cons.1 hl with rfl | hl
    · exact l.lastAt.not_before_self hlater
    · exact l.lastAt.not_before_self ((hafter l hl).trans hlater)

/-- An older cursor at the end changes nothing. -/
theorem Latest.concat_of_before (h : Latest ks k) (hl : l.lastAt.Before k.lastAt) :
    Latest (ks ++ [l]) k := by
  obtain ⟨before, after, rfl, hbefore, hafter⟩ := h
  refine ⟨before, after ++ [l], by simp, hbefore, fun a ha => ?_⟩
  rcases List.mem_append.1 ha with ha | ha
  · exact hafter a ha
  · exact List.mem_singleton.1 ha ▸ hl

/-- Any other cursor at the end takes over. -/
theorem Latest.concat (h : Latest ks k) (hl : ¬ l.lastAt.Before k.lastAt) :
    Latest (ks ++ [l]) l := by
  refine ⟨ks, [], rfl, fun b hb hlater => ?_, nofun⟩
  have hlast := h.not_before b hb
  unfold Moment.Before at *
  omega

/-- There is only one such cursor. -/
theorem Latest.unique (hk : Latest ks k) (hl : Latest ks l) : k = l := by
  obtain ⟨before, after, rfl, hbefore, hafter⟩ := hk
  obtain ⟨before', after', hks, hbefore', hafter'⟩ := hl
  rcases List.append_eq_append_iff.1 hks with ⟨between, rfl, hrest⟩ | ⟨between, rfl, hrest⟩
  · cases between with
    | nil => exact (List.cons.inj hrest).1
    | cons b between =>
      obtain ⟨rfl, rfl⟩ := List.cons.inj hrest
      exact absurd (hafter l (by simp)) (hbefore' k (by simp))
  · cases between with
    | nil => exact (List.cons.inj hrest).1.symm
    | cons b between =>
      obtain ⟨rfl, rfl⟩ := List.cons.inj hrest
      exact absurd (hafter' k (by simp)) (hbefore l (by simp))

/-- The latest moment does not depend on the order. -/
theorem Latest.lastAt_eq_of_perm (hk : Latest ks k) (hl : Latest ls l) (hp : ks.Perm ls) :
    k.lastAt = l.lastAt :=
  Moment.eq_of_not_before (hk.not_before l (hp.mem_iff.2 hl.mem))
    (hl.not_before k (hp.mem_iff.1 hk.mem))

end Cursor

namespace Store

variable {s : Store} {composition source target : String} {k old : Cursor} {ks : List Cursor}

/-- What is upserted for an edge is then read for it, unless something later was read before. -/
theorem cursor?_upsertCursor (hk : k.OfEdge composition source target) :
    (s.upsertCursor k).cursor? composition source target =
      if ∀ old ∈ s.cursor? composition source target, ¬ k.lastAt.Before old.lastAt then some k
      else s.cursor? composition source target := by
  unfold cursor?
  rw [get?_upsertCursor, hk.key]
  by_cases h : ∀ old ∈
      (s.cursors.get? (Cursor.keyOf composition source target)).bind Row.value?,
      ¬ k.lastAt.Before old.lastAt
  · rw [if_pos h, if_pos ⟨rfl, h⟩]
    rfl
  · rw [if_neg h, if_neg fun he => h he.2]

/-- A cursor that is older than the stored one changes nothing at all. -/
theorem upsertCursor_of_before (hk : k.OfEdge composition source target)
    (hold : s.cursor? composition source target = some old) (h : k.lastAt.Before old.lastAt) :
    s.upsertCursor k = s := by
  have hrow : (s.cursors.get? k.key).bind Row.value? = some old := hk.key ▸ hold
  unfold upsertCursor
  rw [hrow]
  exact if_pos h

/-- What is read for the edge is the latest of the cursors. -/
def ReadsLatest (s : Store) (composition source target : String) (ks : List Cursor) : Prop :=
  match s.cursor? composition source target with
  | none => ks = []
  | some k => Cursor.Latest ks k

theorem readsLatest_toList (s : Store) (composition source target : String) :
    s.ReadsLatest composition source target (s.cursor? composition source target).toList := by
  unfold ReadsLatest
  cases s.cursor? composition source target with
  | none => rfl
  | some k => exact Cursor.latest_singleton k

theorem ReadsLatest.upsertCursor (h : s.ReadsLatest composition source target ks)
    (hk : k.OfEdge composition source target) :
    (s.upsertCursor k).ReadsLatest composition source target (ks ++ [k]) := by
  unfold ReadsLatest at *
  rw [cursor?_upsertCursor hk]
  cases hold : s.cursor? composition source target with
  | none =>
    rw [hold] at h
    obtain rfl : ks = [] := h
    simpa using Cursor.latest_singleton k
  | some old =>
    rw [hold] at h
    by_cases hbefore : k.lastAt.Before old.lastAt
    · simpa [hbefore] using h.concat_of_before hbefore
    · simpa [hbefore] using h.concat hbefore

theorem ReadsLatest.foldl (h : s.ReadsLatest composition source target ks) (cs : List Cursor)
    (hcs : ∀ k ∈ cs, k.OfEdge composition source target) :
    (cs.foldl Store.upsertCursor s).ReadsLatest composition source target (ks ++ cs) := by
  induction cs generalizing s ks with
  | nil => simpa using h
  | cons k cs ih =>
    have hstep := ih (h.upsertCursor (hcs k List.mem_cons_self)) fun l hl =>
      hcs l (List.mem_cons_of_mem _ hl)
    rwa [List.append_assoc] at hstep

/-- The latest of the cursors is read, and nothing if there are none. -/
theorem ReadsLatest.cursor?_eq_some (h : s.ReadsLatest composition source target ks) :
    s.cursor? composition source target = some k ↔ Cursor.Latest ks k := by
  unfold ReadsLatest at h
  cases hread : s.cursor? composition source target with
  | none =>
    rw [hread] at h
    obtain rfl : ks = [] := h
    exact iff_of_false nofun fun hlatest => absurd hlatest.mem List.not_mem_nil
  | some l =>
    rw [hread] at h
    constructor
    · intro he
      exact Option.some.inj he ▸ h
    · intro hlatest
      exact congrArg some (Cursor.Latest.unique h hlatest)

theorem ReadsLatest.cursor?_eq_none (h : s.ReadsLatest composition source target ks) :
    s.cursor? composition source target = none ↔ ks = [] := by
  unfold ReadsLatest at h
  cases hread : s.cursor? composition source target with
  | none =>
    rw [hread] at h
    exact iff_of_true rfl h
  | some l =>
    rw [hread] at h
    exact iff_of_false nofun fun he => absurd (he ▸ h.mem) List.not_mem_nil

/-- However often the cursor of an edge is upserted, whatever was stored under its key before, the
latest of all cursors is read afterwards, the last one of those with the latest moment. In every
order of the upserts that is the same moment. A cursor that is older than the one read changes
nothing when it is upserted, be it for the first time or again, and any other one is then read. -/
theorem upserts_latest (s : Store) (composition source target : String) (cs : List Cursor)
    (hcs : ∀ k ∈ cs, k.OfEdge composition source target) :
    (∀ k, (cs.foldl upsertCursor s).cursor? composition source target = some k ↔
      Cursor.Latest ((s.cursor? composition source target).toList ++ cs) k) ∧
    ((cs.foldl upsertCursor s).cursor? composition source target = none ↔
      s.cursor? composition source target = none ∧ cs = []) ∧
    (∀ cs', cs.Perm cs' →
      ((cs'.foldl upsertCursor s).cursor? composition source target).map Cursor.lastAt =
        ((cs.foldl upsertCursor s).cursor? composition source target).map Cursor.lastAt) ∧
    ∀ k, k.OfEdge composition source target →
      ∀ old ∈ (cs.foldl upsertCursor s).cursor? composition source target,
        (k.lastAt.Before old.lastAt →
          (cs.foldl upsertCursor s).upsertCursor k = cs.foldl upsertCursor s) ∧
        (¬ k.lastAt.Before old.lastAt →
          ((cs.foldl upsertCursor s).upsertCursor k).cursor? composition source target =
            some k) := by
  have hstart := s.readsLatest_toList composition source target
  have hrun := hstart.foldl cs hcs
  refine ⟨fun k => hrun.cursor?_eq_some, ?_, fun cs' hperm => ?_,
    fun k hk old hold => ⟨upsertCursor_of_before hk hold, fun hnot => ?_⟩⟩
  · rw [hrun.cursor?_eq_none, List.append_eq_nil_iff, Option.toList_eq_nil_iff]
  · have hrun' := hstart.foldl cs' fun k hk => hcs k (hperm.mem_iff.2 hk)
    have hperm' := hperm.append_left (s.cursor? composition source target).toList
    cases hread : (cs.foldl upsertCursor s).cursor? composition source target with
    | none =>
      rw [hrun.cursor?_eq_none.1 hread] at hperm'
      rw [hrun'.cursor?_eq_none.2 hperm'.nil_eq.symm]
    | some k =>
      have hk := hrun.cursor?_eq_some.1 hread
      cases hread' : (cs'.foldl upsertCursor s).cursor? composition source target with
      | none =>
        rw [hrun'.cursor?_eq_none.1 hread'] at hperm'
        exact absurd (hperm'.mem_iff.1 hk.mem) List.not_mem_nil
      | some l =>
        have hl := hrun'.cursor?_eq_some.1 hread'
        exact congrArg some (hk.lastAt_eq_of_perm hl hperm').symm
  · rw [cursor?_upsertCursor hk, Option.mem_def.1 hold]
    simp [hnot]

end Store

/-! Four cursors of one edge, whose row is damaged at first; two of them have the latest moment. -/

namespace Sample

def at_ (second : Int) (id : String) : Cursor := ⟨"c", "f", "t", id, ⟨second, 0⟩⟩

def upserts : List Cursor := [at_ 1 "a", at_ 3 "b", at_ 2 "c", at_ 3 "d"]

end Sample

namespace Store

/-- Of the sample the second cursor of the latest moment is left. In reverse order it is the other
one, and in both orders the oldest cursor changes nothing any more. -/
theorem sample_latest : (∀ k ∈ Sample.upserts, k.OfEdge "c" "f" "t") ∧
    Cursor.Latest Sample.upserts (Sample.at_ 3 "d") ∧
    (Sample.upserts.foldl upsertCursor (empty.damageCursor "c" "f" "t")).cursor? "c" "f" "t" =
      some (Sample.at_ 3 "d") ∧
    ((Sample.upserts.reverse.foldl upsertCursor (empty.damageCursor "c" "f" "t")).cursor? "c" "f"
      "t").map Cursor.lastAt = some ⟨3, 0⟩ ∧
    (Sample.upserts.foldl upsertCursor (empty.damageCursor "c" "f" "t")).upsertCursor
      (Sample.at_ 1 "a") = Sample.upserts.foldl upsertCursor (empty.damageCursor "c" "f" "t") := by
  have hcs : ∀ k ∈ Sample.upserts, k.OfEdge "c" "f" "t" := by
    intro k hk
    rcases List.mem_cons.1 hk with rfl | hk
    · exact ⟨rfl, rfl, rfl⟩
    simp only [List.mem_cons, List.not_mem_nil, or_false] at hk
    rcases hk with rfl | rfl | rfl <;> exact ⟨rfl, rfl, rfl⟩
  have hlatest : Cursor.Latest Sample.upserts (Sample.at_ 3 "d") :=
    ⟨[Sample.at_ 1 "a", Sample.at_ 3 "b", Sample.at_ 2 "c"], [], rfl, by decide, nofun⟩
  obtain ⟨hread, -, horder, hagain⟩ :=
    upserts_latest (empty.damageCursor "c" "f" "t") "c" "f" "t" Sample.upserts hcs
  have hlast := (hread (Sample.at_ 3 "d")).2 hlatest
  refine ⟨hcs, hlatest, hlast, ?_, ?_⟩
  · rw [horder _ (List.reverse_perm _).symm, hlast]
    rfl
  · exact (hagain (Sample.at_ 1 "a") ⟨rfl, rfl, rfl⟩ _ hlast).1 (by decide)

end Store

end Watchtower
