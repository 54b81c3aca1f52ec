import Watchtower.Numeric.Single

/-!
Settings and their defaults.
-/

namespace Watchtower

open Numeric (Single)

/-- Where and how watchers are stored. -/
structure StorageConfig where
  rootDir : String
  cacheBytes : Nat
  flushMillis : Nat
  deriving DecidableEq

/-- How attestations are matched and actions dispatched. -/
structure EngineConfig where
  /-- The most messages that wait for dispatch. -/
  queueSize : Nat
  /-- The most actions in flight. -/
  maxInFlight : Nat
  /-- The length of a rate window. -/
  windowSeconds : Nat
  /-- The threshold used where a stored one is not positive. -/
  defaultThreshold : Single
  /-- How many matches the feed keeps. -/
  feedCapacity : Nat
  deriving DecidableEq

/-- What compiled watchers are given. -/
structure CompilerConfig where
  maxFires : Nat
  deriving DecidableEq

/-- The metrics exporter. -/
structure MonitoringConfig where
  enabled : Bool
  portNumber : Nat
  deriving DecidableEq

/-- All settings. -/
structure Config where
  storage : StorageConfig
  engine : EngineConfig
  compiler : CompilerConfig
  monitoring : MonitoringConfig
  deriving DecidableEq

namespace StorageConfig

def default : StorageConfig := ⟨"./db", 67108864, 50⟩

end StorageConfig

namespace EngineConfig

def default : EngineConfig := ⟨1024, 64, 60, ⟨0x3e99999a⟩, 256⟩

end EngineConfig

namespace CompilerConfig

def default : CompilerConfig := ⟨60⟩

end CompilerConfig

namespace MonitoringConfig

def default : MonitoringConfig := ⟨false, 9091⟩

end MonitoringConfig

namespace Config

def default : Config := ⟨.default, .default, .default, .default⟩

end Config

end Watchtower
