import Watchtower.Config
import Watchtower.Config.Setting
import Watchtower.Numeric.Notation

/-!
Reading configurations from settings, and writing them as settings.

A setting is taken for whatever a field asks for as far as it can be: text may spell a number or say
yes or no, a yes counts as one, a fraction is rounded, and numbers can be read as text.
-/

namespace Watchtower

open Numeric (Double Single)

namespace Setting

/-- The words for yes and no, in any case. -/
def answer? (s : String) : Option Bool :=
  let word := String.ofList (Numeric.lower s.toList)
  if word = "true" ∨ word = "on" ∨ word = "yes" then some true
  else if word = "false" ∨ word = "off" ∨ word = "no" then some false
  else none

def bool? : Setting → Option Bool
  | .flag b => some b
  | .int n => some (n ≠ 0)
  | .double x => some (!x.isZero)
  | .text "1" => some true
  | .text "0" => some false
  | .text s => answer? s
  | _ => none

/-- The integer that a text spells for a field without sign: a plus may stand before it. -/
def naturalText? (s : String) : Option Nat :=
  match s.toList with
  | '+' :: r => Numeric.natural? r
  | r => Numeric.natural? r

/-- A whole number, not yet bounded. Doubles are rounded to sixty-four bits. -/
def whole? : Setting → Option Int
  | .flag b => some b.toNat
  | .int n => some n
  | .double x => some (x.toNat (Numeric.pow2 64))
  | .text s =>
    match answer? s with
    | some b => some b.toNat
    | none => (naturalText? s).map Int.ofNat
  | _ => none

/-- A natural number of at most so many bits. -/
def unsigned? (bits : Nat) (s : Setting) : Option Nat := do
  let n ← s.whole?
  if 0 ≤ n ∧ n < (Numeric.pow2 bits : Int) then some n.toNat else none

def double? : Setting → Option Double
  | .flag b => some (.ofInt b.toNat)
  | .int n => some (.ofInt n)
  | .double x => some x
  | .text s =>
    match answer? s with
    | some b => some (.ofInt b.toNat)
    | none => Numeric.double? s.toList
  | _ => none

def single? (s : Setting) : Option Single := s.double?.map Double.toSingle

def string? : Setting → Option String
  | .flag b => some (toString b)
  | .int n => some (toString n)
  | .double x => some x.plainText
  | .text s => some s
  | _ => none

/-- A field that stands for a default where it is not set. -/
def orDefault {α : Type} (default : α) (read : Setting → Option α) : Option Setting → Option α
  | none => some default
  | some s => read s

end Setting

open Setting (orDefault)

namespace StorageConfig

def names : List String := ["db_root_dir", "cache_capacity_bytes", "flush_every_ms"]

def ofSetting? (s : Setting) : Option StorageConfig := do
  match ← s.slots? names with
  | [rootDir, cacheBytes, flushMillis] =>
    some {
      rootDir := ← orDefault default.rootDir Setting.string? rootDir
      cacheBytes := ← orDefault default.cacheBytes (Setting.unsigned? 64) cacheBytes
      flushMillis := ← orDefault default.flushMillis (Setting.unsigned? 64) flushMillis }
  | _ => none

end StorageConfig

namespace EngineConfig

def names : List String := ["dispatch_queue_size", "max_in_flight_dispatches", "rate_window_secs",
  "default_similarity_threshold", "match_broadcast_capacity"]

def ofSetting? (s : Setting) : Option EngineConfig := do
  match ← s.slots? names with
  | [queueSize, maxInFlight, windowSeconds, threshold, feedCapacity] =>
    some {
      queueSize := ← orDefault default.queueSize (Setting.unsigned? 64) queueSize
      maxInFlight := ← orDefault default.maxInFlight (Setting.unsigned? 64) maxInFlight
      windowSeconds := ← orDefault default.windowSeconds (Setting.unsigned? 64) windowSeconds
      defaultThreshold := ← orDefault default.defaultThreshold Setting.single? threshold
      feedCapacity := ← orDefault default.feedCapacity (Setting.unsigned? 64) feedCapacity }
  | _ => none

end EngineConfig

namespace CompilerConfig

def names : List String := ["default_max_fires_per_minute"]

def ofSetting? (s : Setting) : Option CompilerConfig := do
  match ← s.slots? names with
  | [maxFires] => some { maxFires := ← orDefault default.maxFires (Setting.unsigned? 32) maxFires }
  | _ => none

end CompilerConfig

namespace MonitoringConfig

def names : List String := ["prometheus_enabled", "prometheus_port"]

def ofSetting? (s : Setting) : Option MonitoringConfig := do
  match ← s.slots? names with
  | [enabled, portNumber] =>
    some {
      enabled := ← orDefault default.enabled Setting.bool? enabled
      portNumber := ← orDefault default.portNumber (Setting.unsigned? 16) portNumber }
  | _ => none

end MonitoringConfig

namespace Config

def names : List String := ["storage", "engine", "compiler", "monitoring"]

def ofSetting? (s : Setting) : Option Config := do
  match ← s.slots? names with
  | [storage, engine, compiler, monitoring] =>
    some {
      storage := ← orDefault .default StorageConfig.ofSetting? storage
      engine := ← orDefault .default EngineConfig.ofSetting? engine
      compiler := ← orDefault .default CompilerConfig.ofSetting? compiler
      monitoring := ← orDefault .default MonitoringConfig.ofSetting? monitoring }
  | _ => none

end Config

/-! ### Configurations as settings -/

/-- A size as a setting. Settings hold signed integers of sixty-four bits, so the upper half of the
sizes has none. -/
def Setting.ofSize? (n : Nat) : Option Setting :=
  if n < Numeric.pow2 63 then some (.int n) else none

/-- A table of rows that are all there. -/
def Setting.ofRows? (rows : List (String × Option Setting)) : Option Setting :=
  (rows.mapM fun row : String × Option Setting => row.2.map fun s => (row.1, s)).map .table

namespace Config

open Setting (ofSize? ofRows?)

def toSetting? (c : Config) : Option Setting :=
  ofRows? [
    ("storage", ofRows? [
      ("db_root_dir", some (.text c.storage.rootDir)),
      ("cache_capacity_bytes", ofSize? c.storage.cacheBytes),
      ("flush_every_ms", ofSize? c.storage.flushMillis)]),
    ("engine", ofRows? [
      ("dispatch_queue_size", ofSize? c.engine.queueSize),
      ("max_in_flight_dispatches", ofSize? c.engine.maxInFlight),
      ("rate_window_secs", ofSize? c.engine.windowSeconds),
      ("default_similarity_threshold", some (.double (.ofSingle c.engine.defaultThreshold))),
      ("match_broadcast_capacity", ofSize? c.engine.feedCapacity)]),
    ("compiler", ofRows? [("default_max_fires_per_minute", ofSize? c.compiler.maxFires)]),
    ("monitoring", ofRows? [
      ("prometheus_enabled", some (.flag c.monitoring.enabled)),
      ("prometheus_port", ofSize? c.monitoring.portNumber)])]

end Config

end Watchtower
