import Watchtower.Config
import Watchtower.Dispatch
import Watchtower.MatchFeed
import Watchtower.RateWindow
import Watchtower.Store.Access

/-!
The engine: which watchers are active, and what becomes of their matches.

The active set is computed from the store alone (`ActiveSet.gather`): every enabled watcher is in
it, save the standalone watchers that an enabled compound watcher covers, and the watcher of an
edge starts no earlier than the edge's cursor.
-/

namespace Watchtower

/-- The watchers that match, and the ids of those that a compound watcher hides. -/
structure ActiveSet where
  watchers : Table Watcher
  suppressed : Labels
  deriving DecidableEq

namespace ActiveSet

def empty : ActiveSet := ⟨.empty, .empty⟩

/-- The watcher with its time gate moved up to a moment. -/
def gate (w : Watcher) (from_ : Moment) : Watcher :=
  let start := match w.rule.filter.timeStart with
    | some existing => existing.later from_
    | none => from_
  { w with rule := { w.rule with filter := { w.rule.filter with timeStart := some start } } }

/-- The watcher of an edge, started where the edge's cursor stands; any other as it is. -/
def seed (a : Access) (w : Watcher) : Traced Watcher :=
  match w.rule.edge? with
  | none => pure w
  | some e => do
    let cursor ← a.cursor? e.composition e.source e.target
    return match cursor with
      | some c => gate w c.lastAt
      | none => w

/-- The watcher is the standalone one of a covered glyph. -/
def hidden (covered : List String) (w : Watcher) : Bool :=
  w.standaloneGlyph?.any fun glyph => covered.contains glyph

/-- Sorts watchers into active and suppressed ones. -/
def sort (a : Access) (covered : List String) (set : ActiveSet) (w : Watcher) : Traced ActiveSet :=
  if hidden covered w then do
    .say (.suppressed w.id)
    return { set with suppressed := set.suppressed.insert w.id }
  else do
    let seeded ← seed a w
    return { set with watchers := set.watchers.put w.id seeded }

/-- The active set of a store. -/
def gather (a : Access) : Traced ActiveSet := do
  let enabled ← a.list false
  enabled.foldlM (sort a (enabled.filterMap Watcher.covers?)) empty

end ActiveSet

/-- The engine. -/
structure Engine where
  config : EngineConfig
  /-- The exporter of metrics is to run. -/
  exports : Bool
  active : ActiveSet
  limiter : RateLimiter
  dispatch : Dispatch
  feed : MatchFeed
  /-- A dispatcher has been started. -/
  dispatching : Bool
  stopped : Bool

namespace Engine

/-- The most permits, and the longest queue, that can be built. -/
def greatestPermits : Nat := Numeric.pow2 61 - 1

/-- The greatest feed that can be built: places for the next power of two of matches have to fit the
memory that can be addressed. -/
def greatestFeed : Nat := Numeric.pow2 56

/-- A new engine with an empty active set. -/
def build (config : EngineConfig) (exports : Bool) : Except Fault Engine :=
  if config.queueSize = 0 ∨ greatestPermits < config.queueSize ∨ config.feedCapacity = 0
      ∨ greatestFeed < config.feedCapacity then .error .impossibleSize
  else .ok {
    config, exports
    active := .empty
    limiter := ⟨config.windowSeconds * 1000, .empty⟩
    dispatch := .idle config.queueSize config.maxInFlight
    feed := .ofCapacity config.feedCapacity
    dispatching := false
    stopped := false }

/-- Started and not stopped. -/
def isRunning (e : Engine) : Bool := e.dispatching && !e.stopped

/-- Takes over a new active set; rate windows stay for the watchers that stay. -/
def activate (e : Engine) (set : ActiveSet) : Engine :=
  { e with active := set, limiter := e.limiter.retain set.watchers.contains }

/-- What becomes of an active watcher when an attestation arrives. -/
inductive Fate where
  | unmatched
  | zeroCap
  | rateLimited
  | queued
  | queueFull
  | queueClosed
  deriving DecidableEq

/-- Publishes the match of a watcher and sends it on its way, as far as its cap, its rate window and
the queue let it. A fire that the queue does not take is handed back to the rate window. -/
def fire (e : Engine) (now : Nat) (w : Watcher) (a : Attestation) : Engine × Fate :=
  let e := { e with feed := e.feed.publish ⟨w.id, a.id⟩ }
  if w.rule.maxFires = 0 then (e, .zeroCap)
  else
    let (limiter, granted) := e.limiter.acquire w.id w.rule.maxFires now
    if !granted then ({ e with limiter }, .rateLimited)
    else
      let (dispatch, offer) := e.dispatch.offer ⟨w, a⟩
      match offer with
      | .taken => ({ e with limiter, dispatch }, .queued)
      | .full => ({ e with limiter := limiter.release w.id }, .queueFull)
      | .closed => ({ e with limiter := limiter.release w.id }, .queueClosed)

end Engine

end Watchtower
