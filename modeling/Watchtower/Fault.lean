import Watchtower.Config.Defect
import Watchtower.Text.Quoted

/-!
What can go wrong, by cause, and how each cause is worded.
-/

namespace Watchtower

/-- Failures of the store. -/
inductive StoreFault where
  /-- The store cannot be opened. -/
  | unopened
  /-- A row cannot be decoded. -/
  | undecodable
  /-- A watcher is to be created under an id that has a row. -/
  | alreadyExists (id : String)
  /-- There is no row to change. -/
  | notFound (id : String)
  /-- The row changed between reading and writing. -/
  | conflict (id : String)
  /-- A counter of the row is at its limit. -/
  | counterFull (id : String)
  /-- The watcher breaks a rule that every stored one keeps. -/
  | invalidWatcher (id reason : String)
  deriving DecidableEq

/-- Failures of predicates. -/
inductive EvaluationFault where
  /-- The engine was built without the evaluator. -/
  | missingEvaluator (evaluator : String)
  /-- The evaluator does not understand the predicate. -/
  | rejected (predicate reason : String)
  deriving DecidableEq

/-- Failures of actions and of the machinery that runs them. -/
inductive DispatchFault where
  | actionFailed (watcher action reason : String)
  | noInvoker
  | runtimeUnavailable
  deriving DecidableEq

/-- Any failure that reaches a caller. -/
inductive Fault where
  | config (d : ConfigDefect)
  | store (f : StoreFault)
  | invalidComposition (id reason : String)
  | dispatch (f : DispatchFault)
  | evaluation (f : EvaluationFault)
  /-- A configured size is beyond what can be built. -/
  | impossibleSize
  | fatal (reason : String)
  deriving DecidableEq

namespace StoreFault

def message : StoreFault → String
  | .unopened => "store cannot be opened"
  | .undecodable => "row cannot be decoded"
  | .alreadyExists id => "Watcher " ++ id ++ " already exists"
  | .notFound id => "Watcher " ++ id ++ " not found"
  | .conflict id => "Watcher " ++ id ++ " was modified concurrently"
  | .counterFull id => "A counter of watcher " ++ id ++ " is at its limit"
  | .invalidWatcher id reason => "Invalid watcher " ++ id ++ ": " ++ reason

end StoreFault

namespace EvaluationFault

def message : EvaluationFault → String
  | .missingEvaluator evaluator => "No " ++ evaluator ++ " evaluator configured"
  | .rejected predicate reason => "Predicate " ++ Text.quote predicate ++ " rejected: " ++ reason

end EvaluationFault

namespace DispatchFault

def message : DispatchFault → String
  | .actionFailed watcher action reason =>
    "Action " ++ action ++ " failed for watcher " ++ watcher ++ ": " ++ reason
  | .noInvoker => "No action invoker configured"
  | .runtimeUnavailable => "Dispatch requires a running tokio runtime"

end DispatchFault

namespace Fault

def message : Fault → String
  | .config d => d.message
  | .store f => f.message
  | .invalidComposition id reason =>
    "Invalid composition id " ++ Text.quote id ++ ": " ++ reason
  | .dispatch f => f.message
  | .evaluation f => f.message
  | .impossibleSize => "a configured size is beyond what can be built"
  | .fatal reason => "Fatal error: " ++ reason

end Fault

end Watchtower
