import Watchtower.Config
import Watchtower.Json.Record

/-!
The JSON form of settings: every field may be left out.
-/

namespace Watchtower

namespace EngineConfig

def ofJson? (v : Json) : Option EngineConfig := do
  let names := ["dispatch_queue_size", "max_in_flight_dispatches", "rate_window_secs",
    "default_similarity_threshold", "match_broadcast_capacity"]
  match ← v.slots? names with
  | [queueSize, maxInFlight, windowSeconds, threshold, feedCapacity] =>
    some {
      queueSize := ← queueSize.withDefault default.queueSize (Json.unsigned? 64)
      maxInFlight := ← maxInFlight.withDefault default.maxInFlight (Json.unsigned? 64)
      windowSeconds := ← windowSeconds.withDefault default.windowSeconds (Json.unsigned? 64)
      defaultThreshold := ← threshold.withDefault default.defaultThreshold Json.single?
      feedCapacity := ← feedCapacity.withDefault default.feedCapacity (Json.unsigned? 64) }
  | _ => none

end EngineConfig

namespace CompilerConfig

def ofJson? (v : Json) : Option CompilerConfig := do
  match ← v.slots? ["default_max_fires_per_minute"] with
  | [maxFires] =>
    some { maxFires := ← maxFires.withDefault default.maxFires (Json.unsigned? 32) }
  | _ => none

end CompilerConfig

end Watchtower
