import Watchtower.Engine
import Watchtower.Evaluation
import Watchtower.Metrics

/-!
The system: store, engine, metrics and journal, and the operations on them.

Operations take the outage of the store as it is while they run. One that fails says so in its
answer; what it had done until then is in the system that it returns.
-/

namespace Watchtower

/-- Everything that an operation may change. -/
structure System where
  store : Store
  engine : Engine
  metrics : Metrics
  journal : List Event

namespace System

/-- The store as operations reach it. -/
def access (s : System) (outage : Outage) : Access := ⟨s.store, outage⟩

/-- Adds events to the journal. -/
def note (s : System) (events : List Event) : System := { s with journal := s.journal ++ events }

/-- Takes over what has been gathered. A failure leaves everything as it was. -/
def adopt (s : System) (found : Traced ActiveSet) : System × Except StoreFault Unit :=
  let s := s.note found.events
  match found.result with
  | .error f => (s, .error f)
  | .ok set =>
    let active := set.watchers.size
    let suppressed := set.suppressed.size
    ({ s with
        engine := s.engine.activate set
        metrics := { s.metrics with active, suppressed }
        journal := s.journal ++ [.reloaded active suppressed] }, .ok ())

/-- Rebuilds the active set from the store. -/
def reload (s : System) (outage : Outage) : System × Except StoreFault Unit :=
  s.adopt (ActiveSet.gather (s.access outage))

/-! ### Lifecycle -/

/-- Takes the receiving end of the queue, reloads, and starts the dispatcher with it. A stopped
engine and one whose receiving end is taken are left as they are. -/
def start (s : System) (outage : Outage) (hasRuntime : Bool) : System × Except Fault Unit :=
  if !hasRuntime then (s, .error (.dispatch .runtimeUnavailable))
  else if s.engine.stopped then (s.note [.stoppedBeforeStart], .ok ())
  else match s.engine.dispatch.receiver with
    | .parked =>
      match s.reload outage with
      | (s, .error f) =>
        ({ s with engine := { s.engine with dispatch := s.engine.dispatch.close } },
          .error (.store f))
      | (s, .ok ()) =>
        if Engine.greatestPermits < s.engine.dispatch.limit then
          ({ s with engine := { s.engine with dispatch := s.engine.dispatch.close } },
            .error .impossibleSize)
        else
          let dispatch := { s.engine.dispatch with receiver := .waking }
          ({ s with
              engine := { s.engine with dispatch, dispatching := true }
              journal := s.journal ++ [.started] }, .ok ())
    | _ => (s.note [.alreadyStarted], .ok ())

/-- Stops the engine for good. -/
def stop (s : System) : System :=
  if s.engine.stopped then s
  else { s with engine := { s.engine with stopped := true }, journal := s.journal ++ [.stopped] }

/-! ### Attestations -/

/-- An attestation on its way through the active set. -/
structure Intake where
  engine : Engine
  metrics : Metrics
  queued : Nat
  consulted : List Consultation
  events : List Event

/-- What the fate of a match adds to the metrics. -/
def count (m : Metrics) (w : Watcher) (fate : Engine.Fate) : Metrics :=
  let matched := { m with matches_ := m.matches_.add w.rule.action.name 1 }
  match fate with
  | .unmatched => m
  | .zeroCap | .queued => matched
  | .rateLimited => { matched with rateLimited := m.rateLimited + 1 }
  | .queueFull => { matched with dropped := m.dropped.add "queue_full" 1 }
  | .queueClosed => { matched with dropped := m.dropped.add "closed" 1 }

/-- What is said about the fate of a match. -/
def fateEvents (w : Watcher) (a : Attestation) : Engine.Fate → List Event
  | .unmatched | .queued => []
  | .zeroCap => [.zeroCap w.id]
  | .rateLimited => [.capReached w.id a.id]
  | .queueFull => [.queueFull w.id a.id]
  | .queueClosed => [.queueClosed w.id]

/-- Shows the attestation to one active watcher. -/
def Intake.visit (es : Evaluators) (now : Nat) (a : Attestation) (x : Intake) (w : Watcher) :
    Intake :=
  let verdict := es.judge x.engine.config.defaultThreshold w a
  let (engine, fate) := if verdict.matched then x.engine.fire now w a else (x.engine, .unmatched)
  { engine
    metrics := count x.metrics w fate
    queued := x.queued + if fate = .queued then 1 else 0
    consulted := x.consulted ++ verdict.consulted
    events := x.events ++ verdict.events ++ fateEvents w a fate }

/-- Shows the attestation to the active watchers in the order given. -/
def intake (s : System) (es : Evaluators) (now : Nat) (a : Attestation) (order : List Watcher) :
    Intake :=
  order.foldl (Intake.visit es now a)
    ⟨s.engine, { s.metrics with evaluated := s.metrics.evaluated + 1 }, 0, [], []⟩

/-- Evaluates an attestation if the engine is running, with the active watchers in the order given:
the system afterwards, how many actions were queued, and which predicates were put to evaluators. -/
def attestBy (s : System) (es : Evaluators) (now : Nat) (a : Attestation) (order : List Watcher) :
    System × Nat × List Consultation :=
  if !s.engine.isRunning then (s.note [.ignoredAttestation a.id], 0, [])
  else
    let x := s.intake es now a order
    ({ s with engine := x.engine, metrics := x.metrics, journal := s.journal ++ x.events },
      x.queued, x.consulted)

/-- Evaluates an attestation with the active watchers in their own order. -/
def attest (s : System) (es : Evaluators) (now : Nat) (a : Attestation) :
    System × Nat × List Consultation :=
  s.attestBy es now a s.engine.active.watchers.values

/-! ### Actions -/

/-- What is said about bookkeeping that failed. A watcher that was deleted while its action ran is
no cause for concern. A counter at its limit ends the action without a word. -/
def bookkeepingEvents (w : Watcher) (operation : String) : StoreFault → List Event
  | .notFound _ => [.noLongerStored w.id operation]
  | .counterFull _ => []
  | _ => [.bookkeepingFailed w.id operation]

/-- One piece of bookkeeping: the system afterwards, and whether more may follow. -/
def keepBooks (s : System) (w : Watcher) (operation : String) (write : Traced Store) :
    System × Bool :=
  match write.result with
  | .ok store => ({ s with store, journal := s.journal ++ write.events }, true)
  | .error (.counterFull _) => (s.note write.events, false)
  | .error f => (s.note (write.events ++ bookkeepingEvents w operation f), true)

/-- The cursor of a processed message, if its watcher belongs to an edge. -/
def cursorAfter? (m : Message) : Option Cursor :=
  m.watcher.rule.edge?.map fun e =>
    ⟨e.composition, e.source, e.target, m.attestation.id, m.attestation.timestamp⟩

end System

/-- One thing to write down about an action that has ended. -/
inductive Book where
  | fire (id : String) (at_ : Moment)
  | error (id message : String)
  | cursor (c : Cursor)
  deriving DecidableEq

namespace Book

/-- The name of the store's operation. -/
def operation : Book → String
  | fire .. => "record_fire"
  | error .. => "record_error"
  | cursor _ => "upsert_cursor"

/-- The call of the store. -/
def attempt (a : Access) : Book → Traced Store
  | fire id at_ => a.recordFire id at_
  | error id message => a.recordError id message
  | cursor c => a.upsertCursor c

/-- What is due once an action has ended: a success counts as a fire and moves the cursor of the edge,
a failure counts as an error and leaves the cursor alone. -/
def due (now : Moment) (m : Message) : Except Fault Unit → List Book
  | .ok () => fire m.watcher.id now :: (System.cursorAfter? m).toList.map cursor
  | .error f => [error m.watcher.id f.message]

end Book

namespace System

/-- Counts the outcome of an action and says it. -/
def counted (s : System) (m : Message) (outcome : Except Fault Unit) : System :=
  let action := m.watcher.rule.action.name
  match outcome with
  | .ok () => { s with
      metrics := { s.metrics with dispatches := s.metrics.dispatches.add action 1 }
      journal := s.journal ++ [.actionSucceeded m.watcher.id m.attestation.id] }
  | .error _ => { s with
      metrics := { s.metrics with failures := s.metrics.failures.add action 1 }
      journal := s.journal ++ [.actionFailed m.watcher.id m.attestation.id action] }

/-- Keeps books one after the other, up to a counter that is full: the system afterwards, and the
attempts that were made. -/
def keep (outage : Outage) (w : Watcher) : List Book → System → System × List Book
  | [], s => (s, [])
  | b :: bs, s =>
    let (s, goOn) := s.keepBooks w b.operation (b.attempt (s.access outage))
    if goOn then
      let (s, made) := keep outage w bs s
      (s, b :: made)
    else (s, [b])

/-- Records the outcome of an action: counts it and keeps the books that are due. -/
def settle (s : System) (outage : Outage) (now : Moment) (m : Message)
    (outcome : Except Fault Unit) : System × List Book :=
  keep outage m.watcher (Book.due now m outcome) (s.counted m outcome)

end System

end Watchtower
