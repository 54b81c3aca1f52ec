import Watchtower.Compilation.Plan

/-!
From what is stored to what is planned.

The difference between the watchers stored for a composition and those planned for it is a list of
writes: stale watchers are removed, watchers whose rule changed are replaced and keep their
statistics, new ones are created, and the rest is left alone. Writes are committed one after the
other, up to the first that fails.
-/

namespace Watchtower

/-- A planned change of one watcher row. -/
inductive Write where
  | remove (id : String)
  | replace (w : Watcher)
  | create (w : Watcher)
  deriving DecidableEq

namespace Write

/-- The new watcher keeps the statistics and the date of creation of the stored one. -/
def carry (stored next : Watcher) (now : Moment) : Watcher :=
  { next with stats := stored.stats, createdAt := stored.createdAt, updatedAt := now }

/-- The write that a planned watcher needs, if any. -/
def of? (existing : Table Watcher) (now : Moment) (w : Watcher) : Option Write :=
  match existing.get? w.id with
  | some stored => if stored.sameRule w then none else some (.replace (carry stored w now))
  | none => some (.create w)

/-- The stored watchers that are not planned any more. -/
def stale (existing desired : Table Watcher) : List String :=
  existing.keys.filter fun id => !desired.contains id

/-- All writes: removals first, then the planned watchers in the order of their ids. -/
def plan (existing desired : Table Watcher) (now : Moment) : List Write :=
  (stale existing desired).map .remove ++ desired.values.filterMap (of? existing now)

/-- Carries out one write: the store afterwards, and whether a row was changed. -/
def perform (a : Access) : Write → Traced (Store × Bool)
  | .remove id => do
    let (s, removed) ← a.delete id
    if removed then .say (.removedStale id)
    return (s, removed)
  | .replace w | .create w => do
    let (s, _) ← a.createOrReplace w
    return (s, true)

end Write

/-- How far a list of writes has come. -/
structure Commit where
  store : Store
  /-- The writes that changed a row. -/
  performed : List Write
  /-- The failure that ended it. -/
  fault : Option StoreFault
  events : List Event

namespace Commit

/-- Carries out one more write, unless one has failed. -/
def step (outage : Outage) (c : Commit) (write : Write) : Commit :=
  match c.fault with
  | some _ => c
  | none =>
    let done := write.perform ⟨c.store, outage⟩
    let c := { c with events := c.events ++ done.events }
    match done.result with
    | .ok (store, true) => { c with store, performed := c.performed ++ [write] }
    | .ok (store, false) => { c with store }
    | .error f => { c with fault := some f }

/-- Carries out writes up to the first that fails. -/
def run (outage : Outage) (store : Store) (writes : List Write) : Commit :=
  writes.foldl (step outage) ⟨store, [], none, []⟩

/-- How many watchers were removed. -/
def deleted (c : Commit) : Nat := c.performed.countP fun
  | .remove _ => true
  | _ => false

/-- How many watchers were replaced. -/
def replaced (c : Commit) : Nat := c.performed.countP fun
  | .replace _ => true
  | _ => false

/-- How many watchers were created. -/
def created (c : Commit) : Nat := c.performed.countP fun
  | .create _ => true
  | _ => false

end Commit

/-- The glyphs that stored compound watchers cover and planned ones do not, each once, in order. -/
def restoredTargets (existing desired : List Watcher) : List String :=
  let covered := desired.filterMap Watcher.covers?
  (Labels.ofList ((existing.filterMap Watcher.covers?).filter fun g => !covered.contains g)).toList

end Watchtower
