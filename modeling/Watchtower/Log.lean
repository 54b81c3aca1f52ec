import Watchtower.Fault

/-!
What the system says about its own doings, and computations that say something.

An event is a cause with its particulars; level, message and fields follow from it. A `Traced`
computation may fail, and what it has said until then is kept either way. Its result is that of the
same computation without events (`Traced.result_bind`).
-/

namespace Watchtower

/-- How urgent an event is. -/
inductive LogLevel where
  | trace
  | debug
  | info
  | warn
  | error
  deriving DecidableEq

namespace LogLevel

def name : LogLevel → String
  | .trace => "TRACE"
  | .debug => "DEBUG"
  | .info => "INFO"
  | .warn => "WARN"
  | .error => "ERROR"

end LogLevel

/-- Something worth saying. -/
inductive Event where
  | createdWatcher
  | deletedByStem (removed : Nat)
  | undecodableWatcher (key : String)
  | replacedUndecodable
  | undecodableCursor (composition source target : String)
  | cursorUpserted (lastId : String)
  | stoppedBeforeStart
  | alreadyStarted
  | started
  | stopped
  | suppressed (watcher : String)
  | reloaded (active suppressed : Nat)
  | ignoredAttestation (attestation : String)
  | outsideTimeGate (watcher attestation : String)
  | noEvaluator (evaluator watcher : String)
  | queryFailed (watcher : String)
  | similarityFailed (watcher : String)
  | zeroCap (watcher : String)
  | capReached (watcher attestation : String)
  | queueFull (watcher attestation : String)
  | queueClosed (watcher : String)
  | dispatcherStarted
  | dispatcherStopping
  | actionSucceeded (watcher attestation : String)
  | actionFailed (watcher attestation action : String)
  | noLongerStored (watcher operation : String)
  | bookkeepingFailed (watcher operation : String)
  | lookupFailed (glyph : String)
  | skippedEdge (source target : String)
  | notActionable (source target tag : String)
  | restores (watcher : String)
  | removedStale (watcher : String)
  | compiled (created replaced unchanged deleted skipped : Nat)
  | reloadFailedAfterCompile
  | ownsNoWatchers
  | watcherCleanupFailed
  | cursorCleanupFailed
  | reloadFailedAfterCleanup
  | cleanedUp (watchers cursors : Nat)
  deriving DecidableEq

namespace Event

open LogLevel

/-- Level and message of an event. -/
def headline : Event → LogLevel × String
  | createdWatcher => (debug, "Created watcher")
  | deletedByStem _ => (debug, "Deleted watchers by prefix")
  | undecodableWatcher _ => (warn, "Skipping undecodable watcher row")
  | replacedUndecodable => (warn, "Replaced an undecodable watcher row")
  | undecodableCursor .. => (error, "cursor row deserialize error")
  | cursorUpserted _ => (trace, "Cursor upserted")
  | stoppedBeforeStart => (debug, "Engine stopped, not starting dispatch")
  | alreadyStarted => (debug, "Engine already started")
  | started => (info, "Engine started")
  | stopped => (info, "Engine stopped")
  | suppressed _ => (debug, "Suppressed by compound watcher")
  | reloaded .. => (info, "Reloaded watchers")
  | ignoredAttestation _ => (trace, "Engine not running, attestation ignored")
  | outsideTimeGate .. => (trace, "Outside time gate, treated as processed history")
  | noEvaluator evaluator _ => (warn, (EvaluationFault.missingEvaluator evaluator).message)
  | queryFailed _ => (warn, "Query evaluation failed")
  | similarityFailed _ => (warn, "Similarity evaluation failed")
  | zeroCap _ => (trace, "Fire cap is zero, match not dispatched")
  | capReached .. => (debug, "Fire cap reached, match dropped")
  | queueFull .. => (warn, "Dispatch queue full, fire dropped")
  | queueClosed _ => (debug, "Dispatch queue closed")
  | dispatcherStarted => (info, "Dispatcher started")
  | dispatcherStopping => (info, "Dispatcher received shutdown signal")
  | actionSucceeded .. => (trace, "Action succeeded")
  | actionFailed .. => (error, "Action failed")
  | noLongerStored .. => (debug, "Watcher no longer stored")
  | bookkeepingFailed .. => (warn, "Dispatch bookkeeping failed")
  | lookupFailed _ => (warn, "Failed to resolve glyph")
  | skippedEdge .. => (warn, "Skipping edge")
  | notActionable .. => (debug, "Target is not actionable, no watcher")
  | restores watcher => (info, "Standalone watcher " ++ watcher ++ " will be restored after unmeld")
  | removedStale _ => (debug, "Removed stale edge watcher")
  | compiled .. => (info, "Compiled subscriptions")
  | reloadFailedAfterCompile => (error, "Reload after compiling subscriptions failed")
  | ownsNoWatchers =>
    (warn, "Composition id cannot own compiled watchers, skipping watcher cleanup")
  | watcherCleanupFailed => (error, "Failed to delete composition watchers")
  | cursorCleanupFailed => (error, "Failed to delete composition cursors")
  | reloadFailedAfterCleanup => (error, "Reload after deleting subscriptions failed")
  | cleanedUp .. => (info, "Deleted composition subscriptions")

/-- The named particulars of an event. -/
def fields : Event → List (String × String)
  | deletedByStem removed => [("removed", toString removed)]
  | undecodableWatcher key => [("key", key)]
  | undecodableCursor c f t => [("composition_id", c), ("from_glyph_id", f), ("to_glyph_id", t)]
  | cursorUpserted lastId => [("last_processed_id", lastId)]
  | suppressed w | noEvaluator _ w | queryFailed w | similarityFailed w | zeroCap w | queueClosed w
  | removedStale w => [("watcher_id", w)]
  | reloaded active hidden => [("active", toString active), ("suppressed", toString hidden)]
  | ignoredAttestation a => [("attestation_id", a)]
  | outsideTimeGate w a | capReached w a | queueFull w a | actionSucceeded w a =>
    [("attestation_id", a), ("watcher_id", w)]
  | actionFailed w a action => [("action", action), ("attestation_id", a), ("watcher_id", w)]
  | noLongerStored w operation | bookkeepingFailed w operation =>
    [("operation", operation), ("watcher_id", w)]
  | lookupFailed glyph => [("glyph_id", glyph)]
  | skippedEdge f t => [("from", f), ("to", t)]
  | notActionable f t tag => [("from", f), ("target_type", tag), ("to", t)]
  | compiled c r u d k =>
    [("created", toString c), ("deleted", toString d), ("replaced", toString r),
      ("skipped", toString k), ("unchanged", toString u)]
  | cleanedUp watchers cursors =>
    [("cursors_removed", toString cursors), ("watchers_removed", toString watchers)]
  | _ => []

/-- A message up to its first colon or full stop before a blank. -/
def head : List Char → List Char
  | ':' :: ' ' :: _ => []
  | '.' :: ' ' :: _ => []
  | c :: r => c :: head r
  | [] => []

/-- One line: level, head of the message and fields in order. -/
def line (e : Event) : String :=
  let (level, message) := e.headline
  let fields := (e.fields.map fun f => f.1 ++ "=" ++ f.2).mergeSort fun a b => a ≤ b
  " ".intercalate (level.name :: String.ofList (head message.toList) :: fields)

end Event

/-- The result of a computation on the store, and what was said on the way. -/
structure Traced (α : Type) where
  result : Except StoreFault α
  events : List Event

namespace Traced

variable {α β : Type}

instance : Monad Traced where
  pure a := ⟨.ok a, []⟩
  bind x f := match x.result with
    | .ok a => ⟨(f a).result, x.events ++ (f a).events⟩
    | .error e => ⟨.error e, x.events⟩

/-- Says something. -/
def say (e : Event) : Traced Unit := ⟨.ok (), [e]⟩

/-- Says several things. -/
def sayAll (es : List Event) : Traced Unit := ⟨.ok (), es⟩

/-- Fails. -/
def fail (f : StoreFault) : Traced α := ⟨.error f, []⟩

/-- A result without events. -/
def lift (r : Except StoreFault α) : Traced α := ⟨r, []⟩

@[simp] theorem result_pure (a : α) : (pure a : Traced α).result = .ok a := rfl

@[simp] theorem result_say (e : Event) : (say e).result = .ok () := rfl

@[simp] theorem result_sayAll (es : List Event) : (sayAll es).result = .ok () := rfl

@[simp] theorem result_fail (f : StoreFault) : (fail f : Traced α).result = .error f := rfl

@[simp] theorem result_lift (r : Except StoreFault α) : (lift r).result = r := rfl

@[simp] theorem result_bind (x : Traced α) (f : α → Traced β) :
    (x >>= f).result = x.result.bind fun a => (f a).result := by
  show (Bind.bind x f).result = _
  simp only [Bind.bind]
  cases x.result <;> rfl

end Traced

end Watchtower
