import Watchtower.Config
import Watchtower.Numeric.Shortest
import Watchtower.Text.Quoted

/-!
Settings listed field by field in one line.
-/

namespace Watchtower

/-- A record as its name and fields. -/
def listing (name : String) (fields : List (String × String)) (rest : List String) : String :=
  name ++ " \x7b " ++ ", ".intercalate (fields.map (fun f => f.1 ++ ": " ++ f.2) ++ rest) ++ " \x7d"

namespace StorageConfig

def list (c : StorageConfig) : String :=
  listing "StorageConfig" [("db_root_dir", Text.quotePath c.rootDir),
    ("cache_capacity_bytes", toString c.cacheBytes), ("flush_every_ms", toString c.flushMillis)] []

end StorageConfig

namespace EngineConfig

def list (c : EngineConfig) : String :=
  listing "EngineConfig" [("dispatch_queue_size", toString c.queueSize),
    ("max_in_flight_dispatches", toString c.maxInFlight),
    ("rate_window_secs", toString c.windowSeconds),
    ("default_similarity_threshold", c.defaultThreshold.listedText),
    ("match_broadcast_capacity", toString c.feedCapacity)] []

end EngineConfig

namespace CompilerConfig

def list (c : CompilerConfig) : String :=
  listing "CompilerConfig" [("default_max_fires_per_minute", toString c.maxFires)] []

end CompilerConfig

namespace MonitoringConfig

def list (c : MonitoringConfig) : String :=
  listing "MonitoringConfig" [("prometheus_enabled", toString c.enabled),
    ("prometheus_port", toString c.portNumber)] []

end MonitoringConfig

namespace Config

def list (c : Config) : String :=
  listing "MeldConfig" [("storage", c.storage.list), ("engine", c.engine.list),
    ("compiler", c.compiler.list), ("monitoring", c.monitoring.list)] []

end Config

end Watchtower
