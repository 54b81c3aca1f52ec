import Watchtower.Attestation
import Watchtower.Log
import Watchtower.Watcher

/-!
The dispatch queue and the dispatcher that empties it.

Messages wait in a bounded queue. The dispatcher takes them in order; each needs a permit to be in
flight, and while there is none the dispatcher waits with one message in hand. It looks out for
the signal to stop only between two messages. A queue whose receiving end is gone takes no more
messages.
-/

namespace Watchtower

/-- A fire on its way to the action. -/
structure Message where
  watcher : Watcher
  attestation : Attestation

/-- Where the receiving end of the queue is. -/
inductive Receiver where
  /-- With the engine, which has not been started. -/
  | parked
  /-- With a dispatcher that has not run yet. -/
  | waking
  /-- With a dispatcher that waits for a message. -/
  | waiting
  /-- With a dispatcher that holds a message and waits for a permit. -/
  | holding (m : Message)
  /-- Gone. -/
  | gone

/-- A message whose action has a permit. -/
structure Flight where
  message : Message
  /-- The gate of the host at which the action waits, once it has been invoked. -/
  gate : Option Nat

/-- The queue, the dispatcher and the actions in flight. -/
structure Dispatch where
  /-- The most messages the queue holds. -/
  capacity : Nat
  /-- The most actions in flight. -/
  limit : Nat
  queue : List Message
  receiver : Receiver
  flights : List Flight

/-- What becomes of a message offered to the queue. -/
inductive Offer where
  | taken
  | full
  | closed
  deriving DecidableEq

namespace Dispatch

/-- An empty queue that nobody receives from yet. -/
def idle (capacity limit : Nat) : Dispatch := ⟨capacity, limit, [], .parked, []⟩

/-- Whether the receiving end exists. -/
def isOpen (d : Dispatch) : Bool :=
  match d.receiver with
  | .gone => false
  | _ => true

/-- Offers a message to the queue. -/
def offer (d : Dispatch) (m : Message) : Dispatch × Offer :=
  if !d.isOpen then (d, .closed)
  else if d.queue.length < d.capacity then ({ d with queue := d.queue ++ [m] }, .taken)
  else (d, .full)

/-- Puts a message in flight. -/
def launch (d : Dispatch) (m : Message) : Dispatch :=
  { d with flights := d.flights ++ [⟨m, none⟩], receiver := .waiting }

/-- Drops the receiving end, and with it the messages in the queue. -/
def close (d : Dispatch) : Dispatch := { d with queue := [], receiver := .gone }

/-- One move of the dispatcher, if it can make one: it sees the signal to stop, takes a message, or
launches the one it holds. -/
def move? (d : Dispatch) (stopped : Bool) : Option (Dispatch × List Event) :=
  match d.receiver with
  | .waiting =>
    if stopped then some (d.close, [.dispatcherStopping])
    else match d.queue with
      | [] => none
      | m :: rest => some ({ d with queue := rest, receiver := .holding m }, [])
  | .holding m => if d.flights.length < d.limit then some (d.launch m, []) else none
  | _ => none

/-- Moves as long as there are any, but no more than so many. -/
def moves (stopped : Bool) : Nat → Dispatch → Dispatch × List Event
  | 0, d => (d, [])
  | count + 1, d =>
    match d.move? stopped with
    | none => (d, [])
    | some (d, said) =>
      let (d, more) := moves stopped count d
      (d, said ++ more)

/-- The most moves of the dispatcher in one turn. -/
def movesInTurn : Nat := 128

/-- One turn of the dispatcher, if it can make one: it starts, and goes on as far as it can. -/
def turn? (d : Dispatch) (stopped : Bool) : Option (Dispatch × List Event) :=
  match d.receiver with
  | .waking =>
    let (d, said) := moves stopped movesInTurn { d with receiver := .waiting }
    some (d, .dispatcherStarted :: said)
  | _ => if (d.move? stopped).isSome then some (moves stopped movesInTurn d) else none

/-- Marks the action of a flight as invoked and waiting at a gate. -/
def invoke (d : Dispatch) (index gate : Nat) : Dispatch :=
  { d with flights := d.flights.modify index fun f => { f with gate := some gate } }

/-- Ends a flight and so frees its permit. -/
def land (d : Dispatch) (index : Nat) : Dispatch := { d with flights := d.flights.eraseIdx index }

end Dispatch

end Watchtower
