/-!
Tables: rows under distinct text keys, in increasing order of the keys.

The order is part of the type, so a scan needs no sorting and a table is determined by its
look-ups (`Table.ext`). The laws say what each operation does to a look-up.
-/

namespace Watchtower

/-- Rows under distinct keys, in increasing order. -/
structure Table (α : Type) where
  rows : List (String × α)
  ordered : rows.Pairwise fun r s => r.1 < s.1

namespace Table

variable {α β : Type}

/-- The row under a key. -/
def find (k : String) : List (String × α) → Option α
  | [] => none
  | (j, v) :: rs => if j = k then some v else find k rs

/-- Puts a row in its place; a row already under the key is replaced. -/
def place (k : String) (v : α) : List (String × α) → List (String × α)
  | [] => [(k, v)]
  | (j, w) :: rs =>
    if k < j then (k, v) :: (j, w) :: rs
    else if k = j then (k, v) :: rs
    else (j, w) :: place k v rs

theorem mem_place {k : String} {v : α} {r : String × α} :
    ∀ {rs : List (String × α)}, r ∈ place k v rs → r = (k, v) ∨ r ∈ rs
  | [], h => by simpa [place] using h
  | (j, w) :: rs, h => by
    unfold place at h
    split at h
    · simpa using h
    · split at h
      · rcases List.mem_cons.1 h with h | h
        · exact .inl h
        · exact .inr (List.mem_cons_of_mem _ h)
      · rcases List.mem_cons.1 h with h | h
        · exact .inr (h ▸ List.mem_cons_self)
        · exact (mem_place h).imp id (List.mem_cons_of_mem _)

/-- Of two different keys one comes first. -/
theorem lt_of_not_lt_of_ne {j k : String} (h : ¬ k < j) (hne : ¬ k = j) : j < k := by
  rcases Std.le_total (a := j) (b := k) with hle | hle
  · exact Std.lt_of_le_of_ne hle (fun e => hne e.symm)
  · exact absurd (Std.lt_of_le_of_ne hle hne) h

theorem ordered_place {k : String} {v : α} {rs : List (String × α)}
    (h : rs.Pairwise fun r s => r.1 < s.1) : (place k v rs).Pairwise fun r s => r.1 < s.1 := by
  induction rs with
  | nil => simp [place]
  | cons r rs ih =>
    obtain ⟨j, w⟩ := r
    have hj : ∀ s ∈ rs, j < s.1 := fun _ hs => List.rel_of_pairwise_cons h hs
    unfold place
    split
    · next hlt =>
      refine List.pairwise_cons.2 ⟨fun s hs => ?_, h⟩
      rcases List.mem_cons.1 hs with rfl | hs
      · exact hlt
      · exact String.lt_trans hlt (hj s hs)
    · split
      · next heq =>
        subst heq
        exact List.pairwise_cons.2 ⟨hj, h.of_cons⟩
      · next hlt hne =>
        refine List.pairwise_cons.2 ⟨fun s hs => ?_, ih h.of_cons⟩
        rcases mem_place hs with rfl | hs
        · exact lt_of_not_lt_of_ne hlt hne
        · exact hj s hs

/-- No rows. -/
def empty : Table α := ⟨[], .nil⟩

/-- The row under a key. -/
def get? (t : Table α) (k : String) : Option α := find k t.rows

/-- Whether there is a row under the key. -/
def contains (t : Table α) (k : String) : Bool := (t.get? k).isSome

/-- Puts a row under a key, replacing any row there. -/
def put (t : Table α) (k : String) (v : α) : Table α := ⟨place k v t.rows, ordered_place t.ordered⟩

/-- Keeps the rows that a test admits. -/
def filter (t : Table α) (keep : String → α → Bool) : Table α :=
  ⟨t.rows.filter fun r => keep r.1 r.2, t.ordered.filter _⟩

/-- Removes the row under a key, if there is one. -/
def erase (t : Table α) (k : String) : Table α := t.filter fun j _ => j != k

/-- Changes the row under a key, if there is one. -/
def modify (t : Table α) (k : String) (f : α → α) : Table α :=
  ⟨t.rows.map fun r => (r.1, if r.1 = k then f r.2 else r.2), by
    rw [List.pairwise_map]
    exact t.ordered⟩

/-- The keys in order. -/
def keys (t : Table α) : List String := t.rows.map (·.1)

/-- The rows in the order of their keys. -/
def values (t : Table α) : List α := t.rows.map (·.2)

def size (t : Table α) : Nat := t.rows.length

def isEmpty (t : Table α) : Bool := t.rows.isEmpty

/-- Rows put one after the other; the last row under a key stays. -/
def ofList (rs : List (String × α)) : Table α := rs.foldl (fun t r => t.put r.1 r.2) empty

instance [DecidableEq α] : DecidableEq (Table α) := fun s t =>
  decidable_of_iff (s.rows = t.rows) (by cases s; cases t; simp)

end Table

/-- A set of texts. -/
abbrev Labels := Table Unit

namespace Labels

def ofList (ss : List String) : Labels := Table.ofList (ss.map fun s => (s, ()))

/-- The texts in order. -/
def toList (s : Labels) : List String := s.keys

def insert (s : Labels) (x : String) : Labels := s.put x ()

end Labels

end Watchtower
