import Watchtower.Table

/-!
Rate windows: how often each watcher has fired of late.

A window starts with a fire and is restarted by the first fire at least one span later. Time is
read from a clock that only moves forward and counts milliseconds.
-/

namespace Watchtower

/-- The fires counted since a window started. -/
structure RateWindow where
  startedAt : Nat
  fires : Nat
  deriving DecidableEq

namespace RateWindow

/-- The window as it is at a time: restarted if its span is over. -/
def refreshed (w : RateWindow) (span now : Nat) : RateWindow :=
  if span ≤ now - w.startedAt then ⟨now, 0⟩ else w

end RateWindow

/-- The windows of all watchers that have fired. -/
structure RateLimiter where
  /-- The length of a window. -/
  span : Nat
  windows : Table RateWindow
  deriving DecidableEq

namespace RateLimiter

/-- The window of a watcher as it is at a time; a new one if it has none. -/
def windowAt (l : RateLimiter) (id : String) (now : Nat) : RateWindow :=
  match l.windows.get? id with
  | some w => w.refreshed l.span now
  | none => ⟨now, 0⟩

/-- Takes one fire out of a watcher's budget, and says whether there was one left. -/
def acquire (l : RateLimiter) (id : String) (cap now : Nat) : RateLimiter × Bool :=
  if cap = 0 then (l, false)
  else
    let w := l.windowAt id now
    if w.fires < cap then
      ({ l with windows := l.windows.put id { w with fires := w.fires + 1 } }, true)
    else ({ l with windows := l.windows.put id w }, false)

/-- Hands back a fire that was never dispatched. -/
def release (l : RateLimiter) (id : String) : RateLimiter :=
  { l with windows := l.windows.modify id fun w => { w with fires := w.fires - 1 } }

/-- Keeps the windows of these watchers only. -/
def retain (l : RateLimiter) (keep : String → Bool) : RateLimiter :=
  { l with windows := l.windows.filter fun id _ => keep id }

end RateLimiter

end Watchtower
