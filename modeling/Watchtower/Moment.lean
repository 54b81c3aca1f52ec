/-!
Moments in universal time.

A moment is a second of the civil calendar and a fraction of it in nanoseconds. A leap second is
the fraction of its predecessor carried on beyond one second, so the order by seconds, then by
nanoseconds, is the order in time.
-/

namespace Watchtower

/-- A moment: seconds since the start of 1970, and nanoseconds, below two seconds' worth. -/
structure Moment where
  seconds : Int
  nanos : Nat
  deriving DecidableEq, Inhabited

namespace Moment

/-- One second in nanoseconds. -/
def second : Nat := 1000000000

/-- `a` is earlier than `b`. -/
def Before (a b : Moment) : Prop :=
  a.seconds < b.seconds ∨ (a.seconds = b.seconds ∧ a.nanos < b.nanos)

instance (a b : Moment) : Decidable (Before a b) := inferInstanceAs (Decidable (_ ∨ _))

/-- The later of two moments. -/
def later (a b : Moment) : Moment := if b.Before a then a else b

theorem not_before_self (a : Moment) : ¬ a.Before a := by
  unfold Before; omega

theorem Before.trans {a b c : Moment} (h : a.Before b) (k : b.Before c) : a.Before c := by
  unfold Before at *; omega

/-- Two moments of which neither is earlier are the same. -/
theorem eq_of_not_before {a b : Moment} (h : ¬ a.Before b) (k : ¬ b.Before a) : a = b := by
  obtain ⟨s, n⟩ := a
  obtain ⟨t, m⟩ := b
  unfold Before at *
  simp only [mk.injEq]
  simp only at h k
  omega

end Moment

end Watchtower
