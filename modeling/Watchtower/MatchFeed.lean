/-!
The feed of matches: a subscriber sees the latest matches since it last looked, and how many
earlier ones it has missed.
-/

namespace Watchtower

/-- A watcher has matched an attestation. -/
structure MatchEvent where
  watcher : String
  attestation : String
  deriving DecidableEq

/-- Matches that the subscriber has not seen. -/
structure MatchFeed where
  /-- How many matches are kept. -/
  capacity : Nat
  pending : List MatchEvent
  lost : Nat

namespace MatchFeed

/-- A feed keeps as many matches as the next power of two. -/
def ofCapacity (n : Nat) : MatchFeed := ⟨n.nextPowerOfTwo, [], 0⟩

/-- Publishes a match; the oldest one gives way if too many are kept. -/
def publish (f : MatchFeed) (e : MatchEvent) : MatchFeed :=
  if f.pending.length < f.capacity then { f with pending := f.pending ++ [e] }
  else { f with pending := f.pending.drop 1 ++ [e], lost := f.lost + 1 }

/-- The feed once the subscriber has looked. -/
def seen (f : MatchFeed) : MatchFeed := { f with pending := [], lost := 0 }

end MatchFeed

end Watchtower
