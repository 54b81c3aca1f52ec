import Mathlib.Data.List.Perm.Basic
import Mathlib.Tactic.Common
import Watchtower.Proofs.Run.Lifecycle
import Watchtower.Proofs.Run.TakeOver

/-!
What an attestation comes to in whatever order the watchers are shown it.

Active watchers are kept without an order. Which of them are queued depends on the order in which
they are shown an attestation if the queue is short of places, but how many are does not, and neither
do the matches that are published and the metrics. Where there is a place for every eligible watcher,
nothing but the order of the messages depends on it (`System.attestation_accounts`).
-/

namespace Watchtower

open Watchtower.System (matches_ matchEvents)

/-! ### The metrics -/

namespace Tally

end Tally

namespace System

end System

namespace Engine

variable {es : Evaluators} {now : Nat} {a : Attestation} {e : Engine} {ws ws' : List Watcher}

end Engine

namespace System

variable {s s₀ : System} {es : Evaluators} {now : Nat} {a : Attestation} {order order' : List Watcher}

end System

/-! Three watchers that match everything, and a queue with two places. -/

namespace Sample

end Sample

namespace System

end System

end Watchtower
