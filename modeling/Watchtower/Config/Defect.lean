import Watchtower.Config
import Watchtower.FileTree
import Watchtower.Numeric.Shortest

/-!
What can be wrong with a configuration.

A configuration is examined section by section, and the first defect counts. The directory for
storage is made if nothing is there, and has to be one that can be written in.
-/

namespace Watchtower

open Numeric (Single)

/-- A defect of a configuration. -/
inductive ConfigDefect where
  /-- A size that must not be zero. -/
  | zeroSize (field : String)
  | noDirectory
  | unmakeable (path : String) (trouble : PathTrouble)
  | unwritable (path : String) (trouble : PathTrouble)
  | threshold (x : Single)
  | neverFires
  | noPort
  | privilegedPort (number : Nat)
  deriving DecidableEq

namespace ConfigDefect

def message : ConfigDefect → String
  | zeroSize field => field ++ " must be greater than 0"
  | noDirectory => "db_root_dir path cannot be empty"
  | unmakeable path trouble =>
    "Failed to create db_root_dir directory at " ++ path ++ ": " ++ trouble.message
  | unwritable path trouble =>
    "No write permission in db_root_dir directory " ++ path ++ ": " ++ trouble.message
  | threshold x => "default_similarity_threshold must be in (0, 1], got " ++ x.plainText
  | neverFires =>
    "default_max_fires_per_minute must be greater than 0, compiled edges would never fire"
  | noPort => "prometheus_port cannot be 0 when enabled"
  | privilegedPort number =>
    "prometheus_port " ++ toString number ++ " is a privileged port (requires root)"

end ConfigDefect

/-! ### Directories -/

namespace FileTree

/-- The name of the file by which writing is tried. -/
def probe : String := ".permission_test"

/-- Makes sure of a directory at a path: the tree afterwards, and what is wrong with the path. -/
def claim (t : FileTree) (path : String) : FileTree × Option ConfigDefect :=
  if path.isEmpty then (t, some .noDirectory)
  else
    let (t, made) := if (t.entry? path).isSome then (t, .ok ()) else t.makeDirectories path
    match made with
    | .error trouble => (t, some (.unmakeable path trouble))
    | .ok () => (t, (t.obstacle? path probe).map (.unwritable path))

end FileTree

/-! ### Sections -/

/-- The first defect of some. -/
def firstOf (defects : List (Option ConfigDefect)) : Option ConfigDefect := defects.findSome? id

/-- A defect if a condition holds. -/
def defectIf (condition : Bool) (d : ConfigDefect) : Option ConfigDefect :=
  if condition then some d else none

namespace StorageConfig

/-- The file tree once the section has been examined, and its first defect. -/
def examine (c : StorageConfig) (t : FileTree) : FileTree × Option ConfigDefect :=
  if c.cacheBytes = 0 then (t, some (.zeroSize "cache_capacity_bytes")) else t.claim c.rootDir

end StorageConfig

namespace EngineConfig

/-- A default threshold has to lie above zero and be at most one. -/
def defect? (c : EngineConfig) : Option ConfigDefect :=
  firstOf [defectIf (c.queueSize = 0) (.zeroSize "dispatch_queue_size"),
    defectIf (c.maxInFlight = 0) (.zeroSize "max_in_flight_dispatches"),
    defectIf (c.windowSeconds = 0) (.zeroSize "rate_window_secs"),
    defectIf (!(c.defaultThreshold.isPositive && c.defaultThreshold.atMost .one))
      (.threshold c.defaultThreshold),
    defectIf (c.feedCapacity = 0) (.zeroSize "match_broadcast_capacity")]

end EngineConfig

namespace CompilerConfig

def defect? (c : CompilerConfig) : Option ConfigDefect := defectIf (c.maxFires = 0) .neverFires

end CompilerConfig

namespace MonitoringConfig

/-- Numbers below 1024 are kept for privileged processes. -/
def defect? (c : MonitoringConfig) : Option ConfigDefect :=
  if !c.enabled then none
  else firstOf [defectIf (c.portNumber = 0) .noPort,
    defectIf (c.portNumber < 1024) (.privilegedPort c.portNumber)]

end MonitoringConfig

namespace Config

/-- The file tree once the configuration has been examined, and its first defect. -/
def examine (c : Config) (t : FileTree) : FileTree × Option ConfigDefect :=
  let (t, storage) := c.storage.examine t
  (t, firstOf [storage, c.engine.defect?, c.compiler.defect?, c.monitoring.defect?])

/-- The first defect of a configuration, given the file tree that it meets. -/
def defect? (c : Config) (t : FileTree) : Option ConfigDefect := (c.examine t).2

end Config

end Watchtower
