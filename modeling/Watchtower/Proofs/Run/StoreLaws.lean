import Mathlib.Tactic.Common
import Watchtower.Proofs.ByteOrder
import Watchtower.Proofs.Run.Schedule
import Watchtower.Proofs.Run.StoreChanges

/-!
What holds of the store at all times.

Some writes check what they are given and some do not, rows may become damaged, and each kind of scan
has a test of its own. Yet point reads and scans always agree: an intact row holds a fit watcher under
its own id, so all scans are parts of one list, which is in the order of the bytes of the ids, and a
watcher is in it exactly if reading its id finds it (`Store.WellKept`, `System.Past.wellKept`).
-/

namespace Watchtower

namespace Store

/-- Reads, scans and removals agree on what is stored. -/
structure WellKept (s : Store) : Prop where
  /-- Intact rows hold fit watchers under their own ids. -/
  own : ∀ k w, s.watchers.get? k = some (.intact w) → w.id = k ∧ w.defect? = none
  /-- Watchers are listed in the order of the bytes of their ids, and so each id once. -/
  ordered : ((s.list true).map fun w => Text.bytes w.id).Pairwise (· < ·)
  /-- Those are listed that are found under their ids. -/
  listed : ∀ w, w ∈ s.list true ↔ s.get? w.id = .ok (some w)
  enabled : s.list false = (s.list true).filter (·.rule.enabled)
  byStem : ∀ stem, s.listByStem stem =
    (s.list true).filter fun w => Naming.startsWith w.id stem
  compounds : ∀ glyph, s.compoundsFor glyph = (s.list true).filter fun w =>
    w.rule.enabled && w.rule.isCompound && w.rule.edge?.any fun e => e.target == glyph
  /-- The rows under a stem are removed and counted, damaged ones too, and no others. -/
  removed : ∀ (outage : Outage) (stem : String), outage (.deleteByStem stem) = none →
    ∃ t n, ((Access.mk s outage).deleteByStem stem).result = .ok (t, n) ∧
      (∀ k, t.watchers.get? k =
        if Naming.startsWith k stem then none else s.watchers.get? k) ∧
      t.cursors = s.cursors ∧ n = (s.watchers.keys.filter (Naming.startsWith · stem)).length

variable {s : Store}

theorem mem_list_true (hs : s.Sound) {w : Watcher} :
    w ∈ s.list true ↔ s.get? w.id = .ok (some w) := by
  rw [list, mem_scan hs, Bool.true_or, and_iff_left rfl, get?]
  cases s.watchers.get? w.id with
  | none => simp
  | some r => cases r <;> simp

/-- Rows are counted by their keys, whether they are intact or not. -/
theorem countByStem_eq (s : Store) (stem : String) :
    s.countByStem stem = (s.watchers.keys.filter (Naming.startsWith · stem)).length := by
  rw [countByStem, Table.size, Table.filter, Table.keys, List.filter_map, List.length_map]
  rfl

theorem wellKept_of_sound (hs : s.Sound) : s.WellKept where
  own _ _ h := hs.watcher h
  ordered := by
    have hids := scan_ordered hs fun _ w => true || w.rule.enabled
    rw [List.pairwise_map] at hids ⊢
    exact hids.imp Text.bytes_lt
  listed _ := mem_list_true hs
  enabled := scan_eq_filter hs _
  byStem stem := scan_eq_filter hs _
  compounds glyph := by
    rw [compoundsFor, scan_eq_filter hs]
    refine List.filter_congr fun w _ => ?_
    rw [Watcher.covers?, Bool.and_assoc]
    cases w.rule.isCompound with
    | false => rfl
    | true => cases w.rule.edge? <;> simp
  removed outage stem hworks :=
    ⟨_, _, Access.attempt_result.2 ⟨hworks, rfl⟩, s.get?_deleteByStem stem, rfl,
      s.countByStem_eq stem⟩

end Store

namespace System

/-- What may have become of a system since its store was empty: moves have been made in any order, and
the store has been opened anew by other engines. -/
inductive Past : System → Prop where
  | fresh {s : System} (h : s.store = .empty) : Past s
  | move {s t : System} {m : Move} {e : Effect} (hs : Past s) (h : s.step? m = some (t, e)) : Past t
  | reopen {s t : System} {config : EngineConfig} {exports : Bool} (hs : Past s)
      (hstore : t.store = s.store) (h : Engine.build config exports = .ok t.engine) : Past t

variable {s t : System}

theorem Past.reachable (h : s.Past) : s.store.Reachable := by
  induction h with
  | fresh h => exact ⟨[], h.symm⟩
  | move _ h ih => exact reachable_step h ih
  | reopen _ hstore _ ih => exact hstore ▸ ih

/-- Whatever has happened to a system, its store is well kept. -/
theorem Past.wellKept (h : s.Past) : s.store.WellKept :=
  Store.wellKept_of_sound h.reachable.sound

theorem Past.runs (hs : s.Past) (h : s.Runs t) : t.Past := by
  obtain ⟨ms, h⟩ := h
  exact run?_keeps (P := Past) (fun _ hmove hx => hx.move hmove) hs h

end System

/-- Opening the store of a deployment anew is one of the things that may have happened. -/
theorem Deployment.past_reopen {d d' : Deployment} {now : Moment} (hd : d.system.Past)
    (h : d.reopen now = .ok d') : d'.system.Past := by
  have hstopped : d.system.stop.Past := hd.move (m := .stop) rfl
  have hdrained := hstopped.runs (runs_drain { d with system := d.system.stop } now)
  simp only [reopen, bind, Except.bind, pure, Except.pure] at h
  split at h
  · cases h
  · next he =>
    obtain rfl := Except.ok.inj h
    exact hdrained.reopen rfl he

/-! Three watchers, one of whose rows becomes damaged. -/

namespace Sample

def named (id : String) : Watcher := { hook with id }

def wear : List Move :=
  [.change (.create (named "b")), .change (.create (named "a/2")), .change (.create (named "a/1")),
    .change (.damageWatcher "a/1")]

end Sample

namespace System

/-- The damaged row of the sample is passed over in the list, and counted where it is removed. -/
theorem sample_wellKept : ∃ s, Sample.idle.run? Sample.wear = some s ∧
    (s.store.list true).map (·.id) = ["a/2", "b"] ∧ s.store.list false = s.store.list true ∧
    ∃ t, ((s.access .none).deleteByStem "a/").result = .ok (t, 2) ∧
      t.watchers.get? "b" = s.store.watchers.get? "b" := by
  obtain ⟨s, hs⟩ : ∃ s, Sample.idle.run? Sample.wear = some s := ⟨_, rfl⟩
  have hpast : s.Past := Past.runs (.fresh (s := Sample.idle) rfl) ⟨_, hs⟩
  have hfacts : (Sample.idle.run? Sample.wear).any (fun s =>
      (s.store.list true).map (·.id) = ["a/2", "b"] ∧ s.store.list true = (s.store.list true).filter
        (·.rule.enabled) ∧
      (s.store.watchers.keys.filter (Naming.startsWith · "a/")).length = 2) = true := by
    decide +kernel
  rw [hs, Option.any_some] at hfacts
  obtain ⟨hids, hon, hcount⟩ := of_decide_eq_true hfacts
  obtain ⟨t, n, hresult, hrows, -, hn⟩ := hpast.wellKept.removed .none "a/" rfl
  rw [hcount] at hn
  subst hn
  exact ⟨s, hs, hids, hpast.wellKept.enabled.trans hon.symm, t, hresult, hrows "b"⟩

end System

end Watchtower
