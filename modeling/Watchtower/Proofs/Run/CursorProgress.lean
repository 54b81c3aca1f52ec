import Mathlib.Tactic.Common
import Watchtower.Proofs.CursorKeys
import Watchtower.Proofs.Run.StoreChanges
import Watchtower.Proofs.Run.TakeOver

/-!
How far cursors come.

An action that ends well moves the cursor of its edge (`System.reached_settle`). No move takes the
cursor back but one that removes or damages it, and no move changes the active set but one that
takes over the store (`System.step_keeps`).
-/

namespace Watchtower

namespace Moment

theorem not_before_trans {a b c : Moment} (h : ¬ b.Before a) (k : ¬ c.Before b) : ¬ c.Before a := by
  unfold Before at *
  omega

end Moment

/-! ### How far cursors have come -/

/-- The change removes the cursor under the key, or damages it. -/
def StoreChange.loses (key : String) : StoreChange → Bool
  | .deleteCursors composition => Naming.startsWith key (Cursor.stem composition)
  | .damageCursor composition source target => Cursor.keyOf composition source target == key
  | _ => false

namespace Store

/-- The cursor under the key has come as far as the moment. -/
def Reached (s : Store) (key : String) (at_ : Moment) : Prop :=
  ∃ k ∈ (s.cursors.get? key).bind Row.value?, ¬ k.lastAt.Before at_

variable {s t : Store} {key : String} {at_ : Moment}

theorem Reached.of_cursors_eq (h : s.Reached key at_) (e : t.cursors = s.cursors) :
    t.Reached key at_ := by
  rwa [Reached, e]

theorem cursors_record {id : String} {change : Statistics → Except StoreFault Statistics}
    (h : s.record id change = .ok t) : t.cursors = s.cursors := by
  obtain ⟨w, stats, -, -, rfl⟩ := record_eq_ok.1 h
  rfl

/-- What a change does to the cursors. -/
theorem cursors_apply (s : Store) (c : StoreChange) : (s.apply c).cursors = match c with
    | .upsertCursor k => (s.upsertCursor k).cursors
    | .deleteCursors composition => (s.deleteCursors composition).cursors
    | .damageCursor composition source target =>
      (s.damageCursor composition source target).cursors
    | _ => s.cursors := by
  have haccept := fun r => accept_keeps (fun t => t.cursors = s.cursors) (s := s) (r := r) rfl
  cases c with
  | create w => exact haccept _ fun t ht => (create_eq_ok.1 ht).2.2 ▸ rfl
  | createOrReplace w => exact haccept _ fun t ht => (createOrReplace_eq_ok.1 ht).2 ▸ rfl
  | update w => exact haccept _ fun t ht => (update_eq_ok.1 ht).2.2 ▸ rfl
  | recordFire | recordError => exact haccept _ fun t ht => cursors_record ht
  | _ => rfl

/-- A cursor that is upserted has come at least as far as it says. -/
theorem reached_upsertCursor (s : Store) (k : Cursor) :
    (s.upsertCursor k).Reached k.key k.lastAt := by
  unfold Reached
  rw [get?_upsertCursor]
  by_cases hlater : ∀ old ∈ (s.cursors.get? k.key).bind Row.value?, ¬ k.lastAt.Before old.lastAt
  · rw [if_pos ⟨rfl, hlater⟩]
    exact ⟨k, rfl, k.lastAt.not_before_self⟩
  · rw [if_neg fun h => hlater h.2]
    simp only [not_forall, not_not] at hlater
    obtain ⟨old, hold, hbefore⟩ := hlater
    exact ⟨old, hold, fun h => old.lastAt.not_before_self (h.trans hbefore)⟩

/-- No upsert takes a cursor back. -/
theorem Reached.upsertCursor (h : s.Reached key at_) (k : Cursor) :
    (s.upsertCursor k).Reached key at_ := by
  obtain ⟨old, hold, hreached⟩ := h
  unfold Reached
  rw [get?_upsertCursor]
  split
  · next hput =>
    obtain ⟨rfl, hlater⟩ := hput
    exact ⟨k, rfl, Moment.not_before_trans hreached (hlater old hold)⟩
  · exact ⟨old, hold, hreached⟩

/-- A change that does not lose a cursor does not take it back. -/
theorem Reached.apply (h : s.Reached key at_) {c : StoreChange} (hc : c.loses key = false) :
    (s.apply c).Reached key at_ := by
  cases c with
  | create | createOrReplace | update | recordFire | recordError | delete | deleteByStem
  | damageWatcher =>
    exact h.of_cursors_eq (cursors_apply s _)
  | upsertCursor k => exact h.upsertCursor k
  | deleteCursors composition =>
    have hstem : Naming.startsWith key (Cursor.stem composition) = false := hc
    unfold Reached Store.apply
    rwa [get?_deleteCursors, hstem, if_neg Bool.false_ne_true]
  | damageCursor composition source target =>
    have hkey : Cursor.keyOf composition source target ≠ key := by
      simpa [StoreChange.loses] using hc
    unfold Reached Store.apply damageCursor
    rwa [Table.get?_put, if_neg hkey]

/-- Some changes, none of which loses the cursor under the key, lead from one store to the other. -/
def Spares (key : String) : Store → Store → Prop :=
  Relation.ReflTransGen fun s t => ∃ c : StoreChange, c.loses key = false ∧ t = s.apply c

theorem Reached.of_spares (h : s.Reached key at_) (hst : Spares key s t) : t.Reached key at_ :=
  Evolves.keeps (P := fun u => u.Reached key at_) hst (fun _ _ hc hu => hu.apply hc) h

end Store

namespace Move

/-- The move removes the cursor under the key, or damages it. -/
def loses (key : String) : Move → Bool
  | .change c => c.loses key
  | .cleanUp outage composition =>
    (outage (.deleteCursors composition)).isNone
      && Naming.startsWith key (Cursor.stem composition)
  | _ => false

end Move

open Store (Spares)

/-! ### What moves do to cursors -/

/-- A move that does not lose a cursor makes no change that does. -/
theorem Move.Makes.spares {m : Move} {e : Effect} {c : StoreChange} {key : String}
    (h : m.Makes e c) (hm : m.loses key = false) : c.loses key = false := by
  cases h with
  | change => exact hm
  | compile w => cases w <;> rfl
  | removeWatchers => rfl
  | removeCursors hworks => simpa [loses, StoreChange.loses, hworks] using hm
  | @finish _ _ _ _ _ b => cases b <;> rfl
  | giveUp => rfl

namespace System

variable {s t : System} {m : Move} {e : Effect} {key : String} {at_ : Moment}

/-- A move takes no cursor back unless it loses it. -/
theorem step_spares (h : s.step? m = some (t, e)) (hm : m.loses key = false) :
    Spares key s.store t.store := (step_evolves h).mono fun _ hc => hc.spares hm

/-- A cursor that is stored while an action is settled has come as far as the cursor says. -/
theorem reached_settle {outage : Outage} {now : Moment} {m : Message} {c : Cursor}
    (hc : cursorAfter? m = some c)
    (hworks : outage (.upsertCursor c.composition c.source c.target) = none)
    (hmade : .cursor c ∈ (s.settle outage now m (.ok ())).2) :
    (s.settle outage now m (.ok ())).1.store.Reached c.key c.lastAt := by
  rw [settle, Book.due, hc, Option.toList_some, List.map_singleton, keep_cons] at hmade ⊢
  have hstored : ∀ v : System, (v.keepBooks m.watcher (Book.cursor c).operation
      ((Book.cursor c).attempt (v.access outage))).1.store = v.store.upsertCursor c := by
    intro v
    have hok : ((Book.cursor c).attempt (v.access outage)).result =
        .ok (v.store.upsertCursor c) := Access.attempt_result.2 ⟨hworks, rfl⟩
    unfold keepBooks
    rw [hok]
  split at hmade
  · next hgo =>
    rw [if_pos hgo, keep_singleton, hstored]
    exact Store.reached_upsertCursor _ c
  · cases hmade with
    | tail _ h => cases h

/-! ### What moves do -/

/-- The active set is left as it is, or it is the one of the store. -/
def Adopts (s t : System) : Prop :=
  t.engine.active = s.engine.active ∨ t.engine.active = .ofStore t.store

/-- The cursor under the key is spared, and the active set is left as it is or is the one of the
store. -/
structure Keeps (key : String) (s t : System) : Prop where
  store : Spares key s.store t.store
  active : Adopts s t

theorem step_adopts (h : s.step? m = some (t, e)) : Adopts s t := by
  rw [Adopts, step_active h]
  split
  · exact .inr rfl
  · exact .inl rfl

/-- No move takes a cursor back but one that removes or damages it, and none changes the active set
but one that takes over the store. -/
theorem step_keeps (h : s.step? m = some (t, e)) (hm : m.loses key = false) : Keeps key s t :=
  ⟨step_spares h hm, step_adopts h⟩

end System

end Watchtower
