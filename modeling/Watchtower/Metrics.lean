import Watchtower.Table

/-!
Counters and gauges.

A counter with labels has a sample for every label that has been touched, be it by an increment of
zero.
-/

namespace Watchtower

/-- Counts by label. -/
abbrev Tally := Table Nat

namespace Tally

/-- Adds to the count of a label. -/
def add (t : Tally) (label : String) (n : Nat) : Tally := t.put label ((t.get? label).getD 0 + n)

end Tally

/-- Everything that is counted. -/
structure Metrics where
  evaluated : Nat
  rateLimited : Nat
  /-- By action. -/
  matches_ : Tally
  /-- By action. -/
  dispatches : Tally
  /-- By action. -/
  failures : Tally
  /-- By reason. -/
  dropped : Tally
  /-- By outcome. -/
  compiled : Tally
  active : Nat
  suppressed : Nat

namespace Metrics

def zero : Metrics := ⟨0, 0, .empty, .empty, .empty, .empty, .empty, 0, 0⟩

end Metrics

end Watchtower
