import Mathlib.Tactic.Common
import Watchtower.Proofs.ActiveSet
import Watchtower.Proofs.Run.Journal

/-!
Reloads that fail.

A reload lists the watchers and then reads the cursors of edges, one after the other, and any of these
calls may fail by itself (`System.reloadDuring`). The first that fails ends the reload with its fault,
and nothing else does: damaged rows count as none. What the reload leaves behind is then the system as
it was, with some more in its journal, and so it goes on as it would have without the reload
(`System.reloadDuring_failed`).
-/

namespace Watchtower

namespace Store

/-- The store without its damaged rows. -/
def pruned (s : Store) : Store where
  watchers := s.watchers.filter fun _ r => r.value?.isSome
  cursors := s.cursors.filter fun _ r => r.value?.isSome

theorem scan_pruned (s : Store) (keep : String → Watcher → Bool) :
    s.pruned.scan keep = s.scan keep := by
  unfold scan pruned Table.filter
  rw [List.filterMap_filter]
  refine List.filterMap_congr fun r _ => ?_
  cases r.2 <;> rfl

theorem cursor?_pruned (s : Store) (composition source target : String) :
    s.pruned.cursor? composition source target = s.cursor? composition source target := by
  unfold cursor? pruned
  rw [Table.get?_filter]
  cases s.cursors.get? (Cursor.keyOf composition source target) with
  | none => rfl
  | some r => cases r <;> rfl

end Store

namespace ActiveSet

/-! ### What is read -/

/-- The call that is made for a watcher as it is sorted: the cursor of its edge is read if it has one
and is not hidden. -/
def lookup? (covered : List String) (w : Watcher) : Option StoreCall :=
  if hidden covered w then none
  else w.rule.edge?.map fun e => .cursor e.composition e.source e.target

/-- The calls of a reload, turn by turn: first the watchers are listed, then they are sorted. -/
def turns (s : Store) : List (Option StoreCall) :=
  some .list :: (s.list false).map (lookup? s.covered)

/-- The fault of the first call that fails, if the outage in the turn `i` is `outages i`. -/
def firstFault? (outages : Nat → Outage) (calls : List (Option StoreCall)) : Option StoreFault :=
  calls.zipIdx.findSome? fun (call, i) => call.bind (outages i)

/-- The active set of a store, gathered while its outage changes from turn to turn. -/
def gatherDuring (s : Store) (outages : Nat → Outage) : Traced ActiveSet := do
  let enabled ← Access.list ⟨s, outages 0⟩ false
  enabled.zipIdx.foldlM
    (fun set (w, i) => sort ⟨s, outages (i + 1)⟩ (enabled.filterMap Watcher.covers?) set w) empty

/-- Gathering is the case of an outage that stays. -/
theorem gather_eq_gatherDuring (a : Access) : gather a = gatherDuring a.store fun _ => a.outage := by
  unfold gather gatherDuring
  congr 1
  funext enabled
  calc enabled.foldlM (sort a (enabled.filterMap Watcher.covers?)) empty
      = (enabled.zipIdx.map (·.1)).foldlM (sort a (enabled.filterMap Watcher.covers?)) empty := by
        rw [List.zipIdx_map_fst]
    _ = _ := List.foldlM_map

/-! ### What comes of it -/

/-- The set with one more watcher sorted. -/
def sorted (s : Store) (covered : List String) (set : ActiveSet) (w : Watcher) : ActiveSet :=
  if hidden covered w then { set with suppressed := set.suppressed.insert w.id }
  else { set with watchers := set.watchers.put w.id (seeded s w) }

/-- A watcher is sorted unless the one call that is made for it fails. -/
theorem result_sort (a : Access) (covered : List String) (set : ActiveSet) (w : Watcher) :
    (sort a covered set w).result = match (lookup? covered w).bind a.outage with
      | some f => .error f
      | none => .ok (sorted a.store covered set w) := by
  unfold sort sorted lookup?
  cases hidden covered w with
  | true => rfl
  | false =>
    simp only [Bool.false_eq_true, if_false]
    unfold seed seeded Access.cursor? Access.attempt
    cases w.rule.edge? with
    | none => rfl
    | some e =>
      dsimp only [Option.map_some, Option.bind_some]
      cases a.outage (.cursor e.composition e.source e.target) with
      | some f => rfl
      | none => rfl

/-- Watchers are sorted one after the other up to the first call that fails. -/
theorem result_foldlM_sort (s : Store) (outages : Nat → Outage) (covered : List String)
    (ws : List Watcher) (n : Nat) (set : ActiveSet) :
    ((ws.zipIdx n).foldlM (fun set (w, i) => sort ⟨s, outages (i + 1)⟩ covered set w) set).result =
      match ((ws.map (lookup? covered)).zipIdx (n + 1)).findSome? fun (call, i) =>
        call.bind (outages i) with
      | some f => .error f
      | none => .ok (ws.foldl (sorted s covered) set) := by
  induction ws generalizing n set with
  | nil => rfl
  | cons w ws ih =>
    rw [List.zipIdx_cons, List.foldlM_cons, Traced.result_bind, result_sort]
    simp only [List.map_cons, List.zipIdx_cons, List.findSome?_cons, List.foldl_cons]
    cases (lookup? covered w).bind (outages (n + 1)) with
    | some f => rfl
    | none => exact ih (n + 1) _

theorem result_list (s : Store) (outage : Outage) :
    (Access.list ⟨s, outage⟩ false).result = match outage .list with
      | some f => .error f
      | none => .ok (s.list false) := by
  unfold Access.list Access.attempt
  dsimp only
  cases outage .list <;> rfl

/-- What is gathered is the active set of the store, unless a call fails. -/
theorem result_gatherDuring (s : Store) (outages : Nat → Outage) :
    (gatherDuring s outages).result = match firstFault? outages (turns s) with
      | some f => .error f
      | none => .ok (ofStore s) := by
  have hgathered : ∀ outages : Nat → Outage, (gatherDuring s outages).result =
      match firstFault? outages (turns s) with
      | some f => .error f
      | none => .ok ((s.list false).foldl (sorted s s.covered) empty) := by
    intro outages
    unfold gatherDuring firstFault? turns
    rw [Traced.result_bind, result_list, List.zipIdx_cons, List.findSome?_cons]
    dsimp only [Option.bind_some]
    cases outages 0 .list with
    | some f => rfl
    | none => exact result_foldlM_sort s outages s.covered (s.list false) 0 empty
  -- where every call works, it is known what is gathered
  have hsorted : (s.list false).foldl (sorted s s.covered) empty = ofStore s := by
    refine gather_ensures ⟨s, .none⟩ _ ?_
    have hworks : firstFault? (fun _ => Outage.none) (turns s) = none := by
      refine List.findSome?_eq_none_iff.2 fun (call, _) _ => ?_
      cases call <;> rfl
    rw [gather_eq_gatherDuring, hgathered, hworks]
  rw [hgathered, hsorted]

/-! ### Damaged rows -/

theorem covered_pruned (s : Store) : s.pruned.covered = s.covered := by
  rw [Store.covered, Store.list, Store.scan_pruned]
  rfl

/-- Damaged rows are as good as none. -/
theorem turns_pruned (s : Store) : turns s.pruned = turns s := by
  rw [turns, covered_pruned, Store.list, Store.scan_pruned]
  rfl

theorem ofStore_pruned (s : Store) : ofStore s.pruned = ofStore s := by
  have hseeded : ∀ w, seeded s.pruned w = seeded s w := by
    intro w
    simp only [seeded, Store.cursor?_pruned]
  simp only [ofStore, covered_pruned, hseeded, Store.list, Store.scan_pruned]

end ActiveSet

namespace System

/-! ### Reloads -/

/-- Reloads while the outage of the store changes from turn to turn. -/
def reloadDuring (s : System) (outages : Nat → Outage) : System × Except StoreFault Unit :=
  s.adopt (ActiveSet.gatherDuring s.store outages)

/-- A reload is the case of an outage that stays. -/
theorem reload_eq_reloadDuring (s : System) (outage : Outage) :
    s.reload outage = s.reloadDuring fun _ => outage := by
  rw [reload, ActiveSet.gather_eq_gatherDuring]
  rfl

variable {s : System} {outages : Nat → Outage}

theorem adopt_snd (s : System) (found : Traced ActiveSet) :
    (s.adopt found).2 = found.result.map fun _ => () := by
  unfold adopt
  dsimp only
  cases found.result <;> rfl

theorem adopt_of_error {found : Traced ActiveSet} {f : StoreFault} (h : found.result = .error f) :
    s.adopt found = (s.note found.events, .error f) := by
  unfold adopt
  rw [h]

theorem reloadDuring_snd (s : System) (outages : Nat → Outage) :
    (s.reloadDuring outages).2 =
      match ActiveSet.firstFault? outages (ActiveSet.turns s.store) with
      | some f => .error f
      | none => .ok () := by
  rw [reloadDuring, adopt_snd, ActiveSet.result_gatherDuring]
  cases ActiveSet.firstFault? outages (ActiveSet.turns s.store) <;> rfl

/-- The fault that a reload fails with is that of the first of its calls that fails. -/
theorem reloadDuring_eq_error {f : StoreFault} : (s.reloadDuring outages).2 = .error f ↔
    ActiveSet.firstFault? outages (ActiveSet.turns s.store) = some f := by
  rw [reloadDuring_snd]
  cases ActiveSet.firstFault? outages (ActiveSet.turns s.store) <;> simp

/-- A reload that fails adds to the journal what it has met, and nothing else. -/
theorem reloadDuring_of_error {f : StoreFault} (h : (s.reloadDuring outages).2 = .error f) :
    ∃ events, (s.reloadDuring outages).1 = s.note events := by
  have hgather : (ActiveSet.gatherDuring s.store outages).result = .error f := by
    rw [ActiveSet.result_gatherDuring, reloadDuring_eq_error.1 h]
  exact ⟨_, congrArg Prod.fst (adopt_of_error hgather)⟩

/-- A reload that succeeds takes over the active set of the store. -/
theorem reloadDuring_of_ok (h : (s.reloadDuring outages).2 = .ok ()) :
    (s.reloadDuring outages).1.store = s.store ∧
      (s.reloadDuring outages).1.engine = s.engine.activate (.ofStore s.store) := by
  have hgather : (ActiveSet.gatherDuring s.store outages).result = .ok (.ofStore s.store) := by
    rw [reloadDuring_snd] at h
    rw [ActiveSet.result_gatherDuring]
    cases hfault : ActiveSet.firstFault? outages (ActiveSet.turns s.store) with
    | none => rfl
    | some f =>
      rw [hfault] at h
      cases h
  unfold reloadDuring adopt
  rw [hgather]
  exact ⟨rfl, rfl⟩

/-- A reload fails with the fault of the first of its calls that fails, be it the list or the cursor
of any watcher, and with no other; rows that are damaged count as none. The system is then as it was
but for its journal: nothing stored, nothing active, no rate window, nothing queued and no metric has
changed, and attestations and whole runs go on as if there had been no reload. -/
theorem reloadDuring_failed (s : System) (outages : Nat → Outage) :
    (∀ outage, s.reload outage = s.reloadDuring fun _ => outage) ∧
    ((s.reloadDuring outages).2 =
      match ActiveSet.firstFault? outages (ActiveSet.turns s.store) with
      | some f => .error f
      | none => .ok ()) ∧
    ActiveSet.turns s.store.pruned = ActiveSet.turns s.store ∧
    ((s.reloadDuring outages).2 = .ok () →
      (s.reloadDuring outages).1.store = s.store ∧
        (s.reloadDuring outages).1.engine = s.engine.activate (.ofStore s.store.pruned)) ∧
    ∀ f, (s.reloadDuring outages).2 = .error f →
      (∃ events, (s.reloadDuring outages).1 = s.note events) ∧
      (∀ es now a, hush ((s.reloadDuring outages).1.attest es now a) = hush (s.attest es now a)) ∧
      ∀ ms, ((s.reloadDuring outages).1.run? ms).map quiet = (s.run? ms).map quiet := by
  refine ⟨reload_eq_reloadDuring s, reloadDuring_snd s outages, ActiveSet.turns_pruned s.store,
    fun h => ?_, fun f h => ?_⟩
  · rw [ActiveSet.ofStore_pruned]
    exact reloadDuring_of_ok h
  · obtain ⟨events, hsame⟩ := reloadDuring_of_error h
    have hquiet : (s.reloadDuring outages).1.quiet = s.quiet := by rw [hsame, quiet_note]
    exact ⟨⟨events, hsame⟩, attest_congr hquiet, run?_congr hquiet⟩

end System

/-! Two compound watchers, of which the second was switched on after the last reload, and a damaged
row. As the cursor of the second is read, the store fails. -/

namespace Sample

def relinked : System :=
  { (linked.reload .none).1 with
    store := [.update (compound "b" "a" true), .damageWatcher "x"].foldl Store.apply linked.store }

def briefly (turn : Nat) : Nat → Outage := fun i call =>
  if i = turn ∧ call = .cursor "c" "b" "a" then some .unopened else none

end Sample

namespace System

/-- The failure keeps the sample from suppressing the watcher that a reload suppresses otherwise, and
no run tells it from a system that was never reloaded. -/
theorem sample_failed_reload :
    (Sample.relinked.reloadDuring (Sample.briefly 2)).2 = .error .unopened ∧
    (Sample.relinked.reloadDuring (Sample.briefly 2)).1.engine.active.suppressed.toList =
      ["se-glyph-b"] ∧
    (Sample.relinked.reload .none).1.engine.active.suppressed.toList =
      ["se-glyph-a", "se-glyph-b"] ∧
    ∀ ms, ((Sample.relinked.reloadDuring (Sample.briefly 2)).1.run? ms).map quiet =
      (Sample.relinked.run? ms).map quiet := by
  obtain ⟨-, hresult, -, -, hfailed⟩ := reloadDuring_failed Sample.relinked (Sample.briefly 2)
  have hfault : ActiveSet.firstFault? (Sample.briefly 2) (ActiveSet.turns Sample.relinked.store) =
      some .unopened := by decide +kernel
  rw [hfault] at hresult
  obtain ⟨⟨events, hsame⟩, -, hrun⟩ := hfailed _ hresult
  refine ⟨hresult, ?_, by decide +kernel, hrun⟩
  rw [hsame, note_engine]
  decide +kernel

end System

end Watchtower
