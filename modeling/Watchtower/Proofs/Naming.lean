import Mathlib.Tactic.Common
import Watchtower.Naming

/-!
Which names start with which stems, and which names are the same.

The stem of a composition starts every id of its compiled watchers and no id of a standalone
watcher. A text is cut at its first separator in one way only, so the ids of an edge's watcher tell
which edge it is (`Naming.edgeWatcher_inj`).
-/

namespace Watchtower

namespace Naming

theorem startsWith_iff {s stem : String} :
    startsWith s stem = true ↔ ∃ rest, s = stem ++ rest := by
  rw [startsWith, List.isPrefixOf_iff_prefix]
  constructor
  · rintro ⟨rest, h⟩
    refine ⟨String.ofList rest, String.toList_inj.1 ?_⟩
    rw [String.toList_append, String.toList_ofList, h]
  · rintro ⟨rest, rfl⟩
    exact ⟨rest.toList, (String.toList_append).symm⟩

theorem startsWith_append (stem rest : String) : startsWith (stem ++ rest) stem = true :=
  startsWith_iff.2 ⟨rest, rfl⟩

theorem startsWith_edgeWatcher (c source target : String) :
    startsWith (edgeWatcher c source target) (edgeStem c) = true := by
  rw [edgeWatcher, String.append_assoc, String.append_assoc]
  exact startsWith_append _ _

/-- A composition's stem starts with another letter than the ids of standalone watchers. -/
theorem not_startsWith_edgeStem {s : String} (c : String) (h : s.toList.head? ≠ some 'm') :
    startsWith s (edgeStem c) = false := by
  refine Bool.eq_false_iff.2 fun hs => h ?_
  obtain ⟨rest, rfl⟩ := startsWith_iff.1 hs
  simp [edgeStem, String.toList_append]

theorem not_startsWith_semanticWatcher (glyph c : String) :
    startsWith (semanticWatcher glyph) (edgeStem c) = false :=
  not_startsWith_edgeStem c (by simp [semanticWatcher, semanticStem, String.toList_append])

theorem not_startsWith_queryWatcher (glyph c : String) :
    startsWith (queryWatcher glyph) (edgeStem c) = false :=
  not_startsWith_edgeStem c (by simp [queryWatcher, String.toList_append])

theorem after?_eq_some {stem s rest : String} : after? stem s = some rest ↔ s = stem ++ rest := by
  unfold after?
  constructor
  · intro h
    split at h
    · next hs =>
      obtain ⟨r, rfl⟩ := startsWith_iff.1 hs
      simpa [String.toList_append] using h
    · cases h
  · rintro rfl
    simp [startsWith_append, String.toList_append]

/-- The watcher of an edge is no standalone watcher of a semantic glyph. -/
theorem edgeWatcher_ne_semanticWatcher (c source target glyph : String) :
    edgeWatcher c source target ≠ semanticWatcher glyph := by
  intro e
  have hstem := startsWith_edgeWatcher c source target
  rw [e, not_startsWith_semanticWatcher] at hstem
  cases hstem

theorem semanticWatcher_inj {g h : String} (e : semanticWatcher g = semanticWatcher h) : g = h := by
  have e' := congrArg String.toList e
  rw [semanticWatcher, semanticWatcher, String.toList_append, String.toList_append] at e'
  exact String.toList_inj.1 (List.append_cancel_left e')

/-! ### Separators -/

/-- A text is cut at its first separator in one way. -/
theorem cut_inj {sep : Char} {a b u v : List Char} (ha : sep ∉ a) (hb : sep ∉ b)
    (e : a ++ sep :: u = b ++ sep :: v) : a = b ∧ u = v := by
  induction a generalizing b with
  | nil =>
    cases b with
    | nil => exact ⟨rfl, (List.cons.inj e).2⟩
    | cons y b => exact absurd ((List.cons.inj e).1 ▸ List.mem_cons_self) hb
  | cons x a ih =>
    cases b with
    | nil => exact absurd ((List.cons.inj e).1 ▸ List.mem_cons_self) ha
    | cons y b =>
      obtain ⟨rfl, hrest⟩ := List.cons.inj e
      obtain ⟨rfl, rfl⟩ := ih (fun h => ha (List.mem_cons_of_mem _ h))
        (fun h => hb (List.mem_cons_of_mem _ h)) hrest
      exact ⟨rfl, rfl⟩

theorem isSegment_iff {s : String} :
    isSegment s = true ↔ s.toList ≠ [] ∧ separator ∉ s.toList := by
  simp [isSegment]

/-- The watcher of an edge between segments is the watcher of no other edge of the composition. -/
theorem edgeWatcher_inj {c f t f' t' : String} (hf : isSegment f = true) (ht : isSegment t = true)
    (e : edgeWatcher c f t = edgeWatcher c f' t') : f = f' ∧ t = t' := by
  have hlists := congrArg String.toList e
  have hsep : ("/" : String).toList = [separator] := rfl
  simp only [edgeWatcher, String.toList_append, List.append_assoc, hsep, List.singleton_append]
    at hlists
  have hcut := List.append_cancel_left hlists
  have hsource := (isSegment_iff.1 hf).2
  -- the one separator of the first name is the one that is found in the second
  have hcount := congrArg (List.count separator) hcut
  simp only [List.count_append, List.count_cons_self, List.count_eq_zero.2 hsource,
    List.count_eq_zero.2 (isSegment_iff.1 ht).2] at hcount
  have hsource' : separator ∉ f'.toList := List.count_eq_zero.1 (by omega)
  obtain ⟨hf, ht⟩ := cut_inj hsource hsource' hcut
  exact ⟨String.toList_inj.1 hf, String.toList_inj.1 ht⟩

end Naming

end Watchtower
