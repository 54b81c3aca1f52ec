import Watchtower.Compilation
import Watchtower.Config.Listing
import Watchtower.Deployment.Collaborators
import Watchtower.Metrics.Exposition

/-!
A deployment: a system in its host process.

The host provides collaborators, a clock and an asynchronous runtime, in which the dispatcher and
the actions run only when they are let (`Deployment.drain`). Invoked actions can be held up at
gates, each at the newest one of its time. The deployment records the invocations for whoever
observes it.
-/

namespace Watchtower

/-- The exporter's place in the host. -/
inductive ExporterSetup where
  | disabled
  | enabled
  /-- Enabled, but something else already listens in its place. -/
  | shutOut
  deriving DecidableEq

/-- What the host provides. -/
structure Host where
  hasQueryEvaluator : Bool
  hasSimilarityEvaluator : Bool
  hasInvoker : Bool
  exporter : ExporterSetup
  /-- Requests to the exporter reach it. -/
  hasNetwork : Bool

/-- Whether the actions that wait may go on. -/
inductive Gate where
  | opened
  /-- Each action needs one of the permits. -/
  | held (permits : Nat)
  deriving DecidableEq

namespace Gate

/-- The gate after one action has gone through, if one may. -/
def pass? : Gate → Option Gate
  | opened => some opened
  | held 0 => none
  | held (n + 1) => some (held n)

/-- The gate with more permits. -/
def release (n : Nat) : Gate → Gate
  | opened => opened
  | held permits => held (permits + n)

end Gate

/-- A system in its host process. -/
structure Deployment where
  host : Host
  config : EngineConfig
  compiler : CompilerConfig
  system : System
  symbols : Table String
  /-- The entries of the outage. -/
  broken : List String
  /-- The watchers whose actions fail. -/
  failing : List String
  /-- The gates so far; newly invoked actions come to the last. -/
  gates : List Gate
  /-- Milliseconds. -/
  clock : Nat
  /-- Invocations not yet reported. -/
  invocations : List MatchEvent
  /-- The exporter has been started in the current runtime. -/
  serving : Bool

namespace Deployment

/-- A deployment of an empty store. -/
def create (host : Host) (config : EngineConfig) (compiler : CompilerConfig)
    (symbols : Table String) : Except Fault Deployment := do
  let engine ← Engine.build config (host.exporter ≠ .disabled)
  return {
    host, config, compiler, symbols
    system := ⟨.empty, engine, .zero, []⟩
    broken := []
    failing := []
    gates := [.opened]
    clock := 0
    invocations := []
    serving := false }

/-- The name of the directory of the store. -/
def storeName : String := "watcher_store"

/-- What hinders the store of a configuration: a path that is too long, be it the one of its
directory from the root or the one of a file that is written first, or too small a cache. -/
def storeFault? (t : FileTree) (c : StorageConfig) : Option Fault :=
  let path := FileTree.within c.rootDir storeName
  if (FileTree.refused? (t.absolute path)).isSome
      ∨ (FileTree.refused? (FileTree.within path "conf.tmp")).isSome then some (.store .unopened)
  else if c.cacheBytes < 256 then some .impossibleSize
  else none

/-- The deployment that a configuration describes, with a store of its own. -/
def ofConfig (host : Host) (t : FileTree) (c : Config) : Except Fault Deployment := do
  let (t, defect) := c.examine t
  if let some d := defect then throw (.config d)
  if let some f := storeFault? t c.storage then throw f
  create { host with exporter := if c.monitoring.enabled then .enabled else .disabled }
    c.engine c.compiler .empty

def outage (d : Deployment) : Outage := .ofEntries d.broken

def access (d : Deployment) : Access := d.system.access d.outage

def evaluators (d : Deployment) : Evaluators where
  query := if d.host.hasQueryEvaluator then some membershipQuery else none
  similarity := if d.host.hasSimilarityEvaluator then some substringSimilarity else none

/-! ### The store at first hand -/

/-- Reads from the store. -/
def read {α : Type} (d : Deployment) (act : Access → Traced α) :
    Deployment × Except Fault α :=
  let done := act d.access
  ({ d with system := d.system.note done.events }, done.result.mapError .store)

/-- Writes to the store. -/
def write {α : Type} (d : Deployment) (act : Access → Traced (Store × α)) :
    Deployment × Except Fault α :=
  let done := act d.access
  let system := d.system.note done.events
  match done.result with
  | .ok (store, a) => ({ d with system := { system with store } }, .ok a)
  | .error f => ({ d with system }, .error (.store f))

/-- Changes rows behind the store's back. -/
def tamper (d : Deployment) (change : Store → Store) : Deployment :=
  { d with system := { d.system with store := change d.system.store } }

/-! ### The runtime -/

/-- The outcome of an action that is let go on. -/
def outcome (d : Deployment) (m : Message) : Except Fault Unit :=
  if d.failing.contains m.watcher.id then
    .error (.dispatch (.actionFailed m.watcher.id m.watcher.rule.action.name
      ("HTTP 500 on " ++ m.attestation.id)))
  else .ok ()

/-- Ends a flight with an outcome. -/
def finish (d : Deployment) (now : Moment) (index : Nat) (m : Message)
    (outcome : Except Fault Unit) : Deployment :=
  let engine := { d.system.engine with dispatch := d.system.engine.dispatch.land index }
  { d with system := ({ d.system with engine }.settle d.outage now m outcome).1 }

/-- Lets a flight go through a gate and end, if the gate lets it. -/
def pass? (d : Deployment) (now : Moment) (index : Nat) (m : Message) (k : Nat) :
    Option Deployment :=
  (d.gates[k]?.bind Gate.pass?).map fun gate =>
    { d with gates := d.gates.set k gate }.finish now index m (d.outcome m)

/-- Invokes the action of a flight, which comes to the newest gate. -/
def invoke (d : Deployment) (index : Nat) (m : Message) : Deployment :=
  let dispatch := d.system.engine.dispatch.invoke index (d.gates.length - 1)
  { d with
    system := { d.system with engine := { d.system.engine with dispatch } }
    invocations := d.invocations ++ [⟨m.watcher.id, m.attestation.id⟩] }

/-- One turn of a flight, if it can make one: it ends at once for want of an invoker, or it is
invoked and goes on if it is not held up, or it goes through the gate that held it up. -/
def flightTurn? (d : Deployment) (now : Moment) (index : Nat) (f : Flight) : Option Deployment :=
  if !d.host.hasInvoker then
    some (d.finish now index f.message (.error (.dispatch .noInvoker)))
  else match f.gate with
    | none =>
      let d := d.invoke index f.message
      some ((d.pass? now index f.message (d.gates.length - 1)).getD d)
    | some k => d.pass? now index f.message k

/-- One turn of the runtime: of the first flight that can make one, else of the dispatcher. -/
def turn? (d : Deployment) (now : Moment) : Option Deployment :=
  let engine := d.system.engine
  match engine.dispatch.flights.zipIdx.findSome? fun (f, index) => d.flightTurn? now index f with
  | some d => some d
  | none => (engine.dispatch.turn? engine.stopped).map fun (dispatch, said) =>
    { d with system := { d.system with engine := { engine with dispatch } }.note said }

/-- Turns as long as there are any, but no more than so many. -/
def turns (now : Moment) : Nat → Deployment → Deployment
  | 0, d => d
  | count + 1, d =>
    match d.turn? now with
    | some d => turns now count d
    | none => d

/-- Enough turns for the dispatcher and every message: each message is taken, launched, invoked and
ended once, and the dispatcher starts and stops once. -/
def enough (d : Deployment) : Nat :=
  4 * (d.system.engine.dispatch.queue.length + d.system.engine.dispatch.flights.length + 1) + 4

/-- Lets the dispatcher and its actions run until nothing can progress. -/
def drain (d : Deployment) (now : Moment) : Deployment := turns now d.enough d

/-- How many turns the runtime makes before it comes back to a host that waits for nothing. -/
def turnsBetween : Nat := 61

/-- Moves the clock by so many milliseconds. The host lets the runtime run for a while then. -/
def advance (d : Deployment) (now : Moment) (ms : Nat) : Deployment :=
  turns now turnsBetween { d with clock := d.clock + ms }

/-- Holds up the actions that are invoked from now on. -/
def hold (d : Deployment) : Deployment := { d with gates := d.gates ++ [.held 0] }

/-- Lets so many more actions through the newest gate, or opens it for good. -/
def release (d : Deployment) (permits : Option Nat) : Deployment :=
  { d with gates := d.gates.modify (d.gates.length - 1) fun gate =>
      match permits with
      | some n => gate.release n
      | none => .opened }

/-- The invocations recorded since the last report, and the deployment without them. -/
def report (d : Deployment) : Deployment × List MatchEvent :=
  ({ d with invocations := [] }, d.invocations)

/-- Drops the runtime with everything that runs in it. -/
def killRuntime (d : Deployment) : Deployment :=
  let dispatch := d.system.engine.dispatch
  let dispatch := match dispatch.receiver with
    | .parked => dispatch
    | _ => { dispatch.close with flights := [] }
  { d with
    system := { d.system with engine := { d.system.engine with dispatch } }
    serving := false }

/-! ### The engine -/

def start (d : Deployment) (hasRuntime : Bool) : Deployment × Except Fault Unit :=
  let (system, result) := d.system.start d.outage hasRuntime
  let launched := !d.system.engine.dispatching && system.engine.dispatching
  ({ d with system, serving := d.serving || (launched && system.engine.exports) }, result)

def reload (d : Deployment) : Deployment × Except Fault Unit :=
  let (system, result) := d.system.reload d.outage
  ({ d with system }, result.mapError .store)

def attest (d : Deployment) (a : Attestation) : Deployment × Nat × List Consultation :=
  let (system, queued, consulted) := d.system.attest d.evaluators d.clock a
  ({ d with system }, queued, consulted)

def compile (d : Deployment) (now : Moment) (c : Composition) :
    Deployment × Except Fault Compiled :=
  let (system, result) :=
    d.system.compile d.outage (.ofSymbols d.symbols) d.compiler now c
  ({ d with system }, result)

def cleanUp (d : Deployment) (composition : String) : Deployment × CleanupReport :=
  let (system, report) := d.system.cleanUp d.outage composition
  ({ d with system }, report)

/-- Drops the engine and builds a new one over the same store. To the dispatcher the end of its
engine is a signal to stop; actions that can still end do so, and everything else in flight is
dropped. -/
def reopen (d : Deployment) (now : Moment) : Except Fault Deployment := do
  let d := { d with system := d.system.stop }.drain now
  let engine ← Engine.build d.config (d.host.exporter ≠ .disabled)
  return { d with
    system := { d.system with engine, journal := [] }
    invocations := []
    serving := false }

/-- The matches that the subscriber has not seen, how many it has missed, and the deployment once it
has looked. -/
def matches_ (d : Deployment) : Deployment × List MatchEvent × Nat :=
  let feed := d.system.engine.feed
  ({ d with system := { d.system with engine := { d.system.engine with feed := feed.seen } } },
    feed.pending, feed.lost)

/-- The journal, and the deployment with an empty one. -/
def journal (d : Deployment) : Deployment × List Event :=
  ({ d with system := { d.system with journal := [] } }, d.system.journal)

/-- What a request to the exporter meets with. -/
inductive Scrape where
  | busy
  | refused
  | answered (reply : ExporterReply)

def scrape (d : Deployment) (method path : String) : Scrape :=
  if d.host.exporter = .shutOut then .busy
  else if d.serving && !d.system.engine.stopped && d.host.hasNetwork then
    .answered (d.system.metrics.reply method path)
  else .refused

/-- The engine described in one line. -/
def describe (d : Deployment) : String :=
  listing "Engine" [("config", d.config.list),
    ("active", toString d.system.engine.active.watchers.size),
    ("stopped", toString d.system.engine.stopped)] [".."]

end Deployment

/-- Runs of events of one attestation, each in the order of its watchers. -/
def MatchEvent.sortRuns : List MatchEvent → List MatchEvent
  | [] => []
  | e :: es =>
    match sortRuns es with
    | [] => [e]
    | rest =>
      let run := rest.takeWhile fun f => f.attestation == e.attestation
      let before := run.takeWhile fun f => f.watcher < e.watcher
      before ++ e :: rest.drop before.length

end Watchtower
