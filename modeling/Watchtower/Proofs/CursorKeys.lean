import Mathlib.Tactic.Common
import Watchtower.Proofs.Store
import Watchtower.Store.Access

/-!
Which cursors share a key.

The key of a cursor joins three ids with the separator of keys, and the cursors of a composition are
removed by the stem of their keys. Neither the ids of compositions nor those of glyphs are free of
this separator by themselves: a segment only has no slash. Where compositions and sources are
written in letters other than the separator, every operation on cursors stays with the edge or the
composition it is about; where the separator is among the letters, it does not
(`Store.isolates_iff`). Targets may be any segments, as nothing follows them in a key.
-/

namespace Watchtower

namespace Cursor

/-- What separates the parts of a cursor's key. -/
def separator : Char := '\x00'

theorem toList_stem (c : String) : (stem c).toList = c.toList ++ [separator] :=
  String.toList_append

theorem toList_keyOf (c f t : String) :
    (keyOf c f t).toList = c.toList ++ separator :: (f.toList ++ separator :: t.toList) := by
  have hsep : ("\x00" : String).toList = [separator] := rfl
  simp [keyOf, toList_stem, String.toList_append, hsep]

/-- Keys whose compositions and sources do without the separator tell which edge they belong to. -/
theorem keyOf_inj {c f t c' f' t' : String} (hc : separator ∉ c.toList) (hf : separator ∉ f.toList)
    (hc' : separator ∉ c'.toList) (hf' : separator ∉ f'.toList) (e : keyOf c f t = keyOf c' f' t') :
    c = c' ∧ f = f' ∧ t = t' := by
  have hkeys := congrArg String.toList e
  rw [toList_keyOf, toList_keyOf] at hkeys
  obtain ⟨hcomposition, hrest⟩ := Naming.cut_inj hc hc' hkeys
  obtain ⟨hsource, htarget⟩ := Naming.cut_inj hf hf' hrest
  exact ⟨String.toList_inj.1 hcomposition, String.toList_inj.1 hsource, String.toList_inj.1 htarget⟩

/-- A stem reaches the keys of its own composition and of no other one without the separator. -/
theorem startsWith_stem_iff {c c' f t : String} (hc : separator ∉ c.toList)
    (hc' : separator ∉ c'.toList) :
    Naming.startsWith (keyOf c' f t) (stem c) = true ↔ c' = c := by
  constructor
  · intro h
    obtain ⟨rest, hrest⟩ := Naming.startsWith_iff.1 h
    have hkeys := congrArg String.toList hrest
    rw [toList_keyOf, String.toList_append, toList_stem, List.append_assoc, List.singleton_append]
      at hkeys
    exact String.toList_inj.1 (Naming.cut_inj hc' hc hkeys).1
  · rintro rfl
    rw [keyOf, String.append_assoc, String.append_assoc]
    exact Naming.startsWith_append _ _

/-- The composition and the source of an edge are segments in an alphabet; its target is a
segment. -/
structure Addressed (letter : Char → Prop) (c f t : String) : Prop where
  composition : Naming.isSegment c = true ∧ ∀ x ∈ c.toList, letter x
  source : Naming.isSegment f = true ∧ ∀ x ∈ f.toList, letter x
  target : Naming.isSegment t = true

end Cursor

/-- A call that writes cursors. -/
inductive CursorCall where
  | upsert (k : Cursor)
  | delete (composition : String)

namespace CursorCall

/-- The store after the call. -/
def apply (s : Store) : CursorCall → Store
  | upsert k => s.upsertCursor k
  | delete c => s.deleteCursors c

/-- The ids that the call names are segments, those of compositions and sources in an alphabet. -/
def Over (letter : Char → Prop) : CursorCall → Prop
  | upsert k => Cursor.Addressed letter k.composition k.source k.target
  | delete c => Naming.isSegment c = true ∧ ∀ x ∈ c.toList, letter x

end CursorCall

namespace Store

/-- The cursors that can be read, in the order of their keys. -/
def listCursors (s : Store) : List Cursor := s.cursors.rows.filterMap fun r => r.2.value?

/-! ### Reading after writing -/

/-- Under the key of an upserted cursor is the cursor, unless the stored one is strictly later. -/
theorem get?_upsertCursor (s : Store) (k : Cursor) (key : String) :
    (s.upsertCursor k).cursors.get? key =
      if k.key = key ∧ ∀ old ∈ (s.cursors.get? k.key).bind Row.value?,
          ¬ k.lastAt.Before old.lastAt
        then some (.intact k) else s.cursors.get? key := by
  unfold upsertCursor
  split
  · next old hold =>
    rw [hold]
    split
    · next hlater => simp [hlater]
    · next hlater => simp [Table.get?_put, hlater]
  · next hnone =>
    rw [hnone]
    simp [Table.get?_put]

theorem get?_deleteCursors (s : Store) (c key : String) :
    (s.deleteCursors c).cursors.get? key =
      if Naming.startsWith key (Cursor.stem c) = true then none else s.cursors.get? key := by
  rw [deleteCursors, Table.get?_filter]
  cases Naming.startsWith key (Cursor.stem c) <;> cases s.cursors.get? key <;> simp [Option.filter]

/-! ### Stores whose cursors can be told apart -/

/-- Every row of a cursor is intact, under its key, and addressed in an alphabet. -/
def Tidy (letter : Char → Prop) (s : Store) : Prop :=
  ∀ key row, s.cursors.get? key = some row → ∃ k : Cursor, row = .intact k ∧ k.key = key ∧
    Cursor.Addressed letter k.composition k.source k.target

variable {letter : Char → Prop}

theorem Tidy.apply {s : Store} (hs : s.Tidy letter) {x : CursorCall} (hx : x.Over letter) :
    (x.apply s).Tidy letter := by
  intro key row hrow
  cases x with
  | upsert k =>
    rw [CursorCall.apply, get?_upsertCursor] at hrow
    split at hrow
    · next hput => exact ⟨k, (Option.some.inj hrow).symm, hput.1, hx⟩
    · exact hs key row hrow
  | delete c =>
    rw [CursorCall.apply, get?_deleteCursors] at hrow
    split at hrow
    · cases hrow
    · exact hs key row hrow

theorem tidy_foldl {s : Store} (hs : s.Tidy letter) (xs : List CursorCall)
    (hxs : ∀ x ∈ xs, x.Over letter) : (xs.foldl CursorCall.apply s).Tidy letter := by
  induction xs generalizing s with
  | nil => exact hs
  | cons x xs ih =>
    rw [List.foldl_cons]
    apply ih (hs.apply (hxs x List.mem_cons_self))
    intro y hy
    exact hxs y (List.mem_cons_of_mem _ hy)

/-- Every operation on cursors stays with the edge or the composition it is about. -/
structure Isolates (letter : Char → Prop) (s : Store) : Prop where
  /-- What is read for an edge is a cursor of this edge. -/
  own : ∀ {c f t}, Cursor.Addressed letter c f t → ∀ k ∈ s.cursor? c f t,
    k.composition = c ∧ k.source = f ∧ k.target = t
  /-- A cursor of one edge changes nothing that is read for another one. -/
  upsert : ∀ {k : Cursor}, Cursor.Addressed letter k.composition k.source k.target →
    ∀ {c f t}, Cursor.Addressed letter c f t →
      ¬(c = k.composition ∧ f = k.source ∧ t = k.target) →
        (s.upsertCursor k).cursor? c f t = s.cursor? c f t
  /-- A removal that works removes the cursors of its composition and tells how many there were. -/
  delete : ∀ {c}, Naming.isSegment c = true → (∀ x ∈ c.toList, letter x) →
    ∀ {outage : Outage}, outage (.deleteCursors c) = none →
      ∃ t n, ((Access.mk s outage).deleteCursors c).result = .ok (t, n) ∧
        t.listCursors = s.listCursors.filter (fun k => k.composition != c) ∧
        n = s.listCursors.countP fun k => k.composition == c

/-- In a tidy store the rows under a stem are the cursors of its composition. -/
theorem rows_of_tidy {s : Store} (hs : s.Tidy letter) {r : String × Row Cursor}
    (hr : r ∈ s.cursors.rows) : ∃ k : Cursor, r = (k.key, .intact k) ∧
      Cursor.Addressed letter k.composition k.source k.target := by
  obtain ⟨key, row⟩ := r
  obtain ⟨k, rfl, rfl, haddr⟩ := hs key row (Table.get?_eq_some_iff.2 hr)
  exact ⟨k, rfl, haddr⟩

/-- Rows picked by the stem of their keys are cursors picked by their composition. -/
theorem filterMap_rows {c : String} (rows : List (String × Row Cursor))
    (h : ∀ r ∈ rows, ∃ k : Cursor, r = (k.key, .intact k) ∧
      (Naming.startsWith k.key (Cursor.stem c) = true ↔ k.composition = c)) :
    ((rows.filter fun r => !Naming.startsWith r.1 (Cursor.stem c)).filterMap fun r => r.2.value?) =
        (rows.filterMap fun r => r.2.value?).filter (fun k => k.composition != c) ∧
      (rows.filter fun r => Naming.startsWith r.1 (Cursor.stem c)).length =
        (rows.filterMap fun r => r.2.value?).countP fun k => k.composition == c := by
  induction rows with
  | nil => exact ⟨rfl, rfl⟩
  | cons r rows ih =>
    obtain ⟨k, rfl, hk⟩ := h r List.mem_cons_self
    obtain ⟨hkept, hcount⟩ := ih fun r hr => h r (List.mem_cons_of_mem _ hr)
    have hvalue : (Row.intact k).value? = some k := rfl
    by_cases hc : k.composition = c
    · have hstem := hk.2 hc
      simp [hvalue, hstem, hc, hkept, hcount]
    · have hstem := Bool.eq_false_iff.2 fun hstem => hc (hk.1 hstem)
      simp [hvalue, hstem, hc, hkept, hcount]

/-- A tidy store keeps edges apart if the separator is no letter. -/
theorem Tidy.isolates {s : Store} (hs : s.Tidy letter) (hsep : ¬ letter Cursor.separator) :
    s.Isolates letter := by
  have hfree : ∀ {c : String}, (∀ x ∈ c.toList, letter x) → Cursor.separator ∉ c.toList :=
    fun hc hmem => hsep (hc _ hmem)
  have hinj : ∀ {c f t c' f' t' : String}, Cursor.Addressed letter c f t →
      Cursor.Addressed letter c' f' t' → Cursor.keyOf c f t = Cursor.keyOf c' f' t' →
        c = c' ∧ f = f' ∧ t = t' := fun h h' e =>
    Cursor.keyOf_inj (hfree h.composition.2) (hfree h.source.2) (hfree h'.composition.2)
      (hfree h'.source.2) e
  refine ⟨?_, ?_, ?_⟩
  · intro c f t haddr k hk
    obtain ⟨row, hrow, hvalue⟩ := Option.bind_eq_some_iff.1 hk
    obtain ⟨k', rfl, hkey, haddr'⟩ := hs _ row hrow
    obtain rfl := Option.some.inj hvalue
    exact hinj haddr' haddr hkey
  · intro k hk c f t haddr hne
    have hkey : k.key ≠ Cursor.keyOf c f t := by
      intro e
      obtain ⟨rfl, rfl, rfl⟩ := hinj hk haddr e
      exact hne ⟨rfl, rfl, rfl⟩
    rw [cursor?, cursor?, get?_upsertCursor, if_neg fun h => hkey h.1]
  · intro c hc hletters outage hworks
    have hrows : ∀ r ∈ s.cursors.rows, ∃ k : Cursor, r = (k.key, .intact k) ∧
        (Naming.startsWith k.key (Cursor.stem c) = true ↔ k.composition = c) := by
      intro r hr
      obtain ⟨k, rfl, haddr⟩ := rows_of_tidy hs hr
      exact ⟨k, rfl, Cursor.startsWith_stem_iff (hfree hletters) (hfree haddr.composition.2)⟩
    obtain ⟨hkept, hcount⟩ := filterMap_rows s.cursors.rows hrows
    refine ⟨s.deleteCursors c, s.countCursors c, ?_, hkept, hcount⟩
    simp [Access.deleteCursors, Access.attempt, hworks]

/-- Every store that calls over an alphabet make of an empty table of cursors isolates edges and
compositions from each other. -/
def IsolatesOver (letter : Char → Prop) : Prop :=
  ∀ (watchers : Table (Row Watcher)) (xs : List CursorCall), (∀ x ∈ xs, x.Over letter) →
    (xs.foldl CursorCall.apply ⟨watchers, .empty⟩).Isolates letter

/-- Cursors of different edges and compositions are isolated from each other exactly if the
separator of keys is not among the letters of compositions and sources. -/
theorem isolates_iff (letter : Char → Prop) : IsolatesOver letter ↔ ¬ letter Cursor.separator := by
  constructor
  · intro h hsep
    -- two separators as the composition are taken for one that ends there and a source that begins
    have hover : ∀ {s : String}, (∀ x ∈ s.toList, x = Cursor.separator) →
        ∀ x ∈ s.toList, letter x := fun hs x hx => hs x hx ▸ hsep
    have hone : Naming.isSegment "\x00" = true ∧ ∀ x ∈ ("\x00" : String).toList, letter x :=
      ⟨by decide, hover (by simp [Cursor.separator])⟩
    have htwo : Naming.isSegment "\x00\x00" = true ∧ ∀ x ∈ ("\x00\x00" : String).toList, letter x :=
      ⟨by decide, hover (by simp [Cursor.separator])⟩
    have hread := ((h .empty [.upsert ⟨"\x00\x00", "\x00", "\x00", "", default⟩] ?_).own
      (c := "\x00") (f := "\x00\x00") (t := "\x00") ⟨hone, htwo, by decide⟩
      ⟨"\x00\x00", "\x00", "\x00", "", default⟩ (by decide)).1
    · exact absurd hread (by decide)
    · intro x hx
      obtain rfl := List.mem_singleton.1 hx
      exact ⟨htwo, hone, by decide⟩
  · intro hsep watchers xs hxs
    have hempty : Tidy letter ⟨watchers, .empty⟩ := by
      intro key row hrow
      simp at hrow
    exact (tidy_foldl hempty xs hxs).isolates hsep

/-- Segments may have the separator in them. Then the cursor of one edge is read for another one,
and removing the cursors of one composition takes that of another one. -/
theorem not_isolated_by_segments :
    (∀ id ∈ ["c", "a\x00b", "t", "a", "b\x00t", "c\x00a"], Naming.isSegment id = true) ∧
    (empty.upsertCursor ⟨"c", "a\x00b", "t", "x", default⟩).cursor? "c" "a" "b\x00t" =
      some ⟨"c", "a\x00b", "t", "x", default⟩ ∧
    ((Access.mk (empty.upsertCursor ⟨"c\x00a", "b", "t", "x", default⟩) .none).deleteCursors
      "c").result = .ok (empty, 1) := by
  decide +kernel

end Store

end Watchtower
