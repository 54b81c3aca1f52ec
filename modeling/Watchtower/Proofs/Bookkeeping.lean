import Mathlib.Tactic.Common
import Watchtower.System

/-!
The bookkeeping of an action that has ended, one attempt at a time.

What an outcome calls for is a list of books, which are kept in order up to a counter that is full.
The attempts that settling an action makes are one fire and no error for a success, one error and no
fire for a failure (`System.settle_spec`).
-/

namespace Watchtower

namespace Book

def isFire : Book → Bool
  | fire .. => true
  | _ => false

def isError : Book → Bool
  | error .. => true
  | _ => false

end Book

namespace System

variable {s : System} {outage : Outage} {now : Moment} {m : Message}

theorem keep_cons (w : Watcher) (b : Book) (bs : List Book) (s : System) :
    keep outage w (b :: bs) s =
      if (s.keepBooks w b.operation (b.attempt (s.access outage))).2 then
        ((keep outage w bs (s.keepBooks w b.operation (b.attempt (s.access outage))).1).1,
          b :: (keep outage w bs (s.keepBooks w b.operation (b.attempt (s.access outage))).1).2)
      else ((s.keepBooks w b.operation (b.attempt (s.access outage))).1, [b]) := rfl

/-- Whatever is kept alone has been attempted. -/
theorem keep_singleton (w : Watcher) (b : Book) (s : System) : keep outage w [b] s =
    ((s.keepBooks w b.operation (b.attempt (s.access outage))).1, [b]) := by
  rw [keep_cons]
  split <;> rfl

/-- A success is attempted to be counted as a fire, a failure as an error, each once and neither as
the other. -/
theorem settle_spec (s : System) (outage : Outage) (now : Moment) (m : Message)
    (outcome : Except Fault Unit) :
    (s.settle outage now m outcome).2.countP Book.isFire = (if outcome.isOk then 1 else 0) ∧
      (s.settle outage now m outcome).2.countP Book.isError = if outcome.isOk then 0 else 1 := by
  cases outcome with
  | error f =>
    rw [settle, Book.due, keep_singleton]
    exact ⟨rfl, rfl⟩
  | ok u =>
    cases hc : cursorAfter? m with
    | none =>
      rw [settle, Book.due, hc, Option.toList_none, List.map_nil, keep_singleton]
      exact ⟨rfl, rfl⟩
    | some c =>
      rw [settle, Book.due, hc, Option.toList_some, List.map_singleton, keep_cons, keep_singleton]
      split <;> exact ⟨rfl, rfl⟩

/-! ### What bookkeeping leaves alone -/

@[simp] theorem counted_store (s : System) (m : Message) (outcome : Except Fault Unit) :
    (s.counted m outcome).store = s.store := by
  cases outcome <;> rfl

@[simp] theorem keepBooks_engine (s : System) (w : Watcher) (operation : String)
    (write : Traced Store) : (s.keepBooks w operation write).1.engine = s.engine := by
  unfold keepBooks
  split <;> rfl

@[simp] theorem keep_engine (w : Watcher) (bs : List Book) (s : System) :
    (keep outage w bs s).1.engine = s.engine := by
  induction bs generalizing s with
  | nil => rfl
  | cons b bs ih =>
    rw [keep_cons]
    split
    · rw [ih, keepBooks_engine]
    · rw [keepBooks_engine]

@[simp] theorem settle_engine (s : System) (outage : Outage) (now : Moment) (m : Message)
    (outcome : Except Fault Unit) : (s.settle outage now m outcome).1.engine = s.engine := by
  rw [settle, keep_engine]
  cases outcome <;> rfl

end System

end Watchtower
