import Mathlib.Tactic.Common
import Watchtower.Config.Layers
import Watchtower.Proofs.Numeric.Rounding
import Watchtower.Proofs.Table

/-!
The fields of a configuration, and where settings have them.

Each field has its name in its section, and is read in a way of its own. A configuration that is
read from settings with a table for each section has in every field what the field reads there
(`Config.read_of_ofSetting?`). What a field is written as is read as the same
(`Config.Field.same_of_written`).
-/

namespace Watchtower

open Numeric (Double Single)

namespace Config

/-- The fields of a configuration. -/
inductive Field where
  | rootDir
  | cacheBytes
  | flushMillis
  | queueSize
  | maxInFlight
  | windowSeconds
  | defaultThreshold
  | feedCapacity
  | maxFires
  | enabled
  | portNumber
  deriving DecidableEq

namespace Field

/-- The name of the section that has the field. -/
def part : Field → String
  | rootDir | cacheBytes | flushMillis => "storage"
  | queueSize | maxInFlight | windowSeconds | defaultThreshold | feedCapacity => "engine"
  | maxFires => "compiler"
  | enabled | portNumber => "monitoring"

/-- The name that the field has in its section. -/
def name : Field → String
  | rootDir => "db_root_dir"
  | cacheBytes => "cache_capacity_bytes"
  | flushMillis => "flush_every_ms"
  | queueSize => "dispatch_queue_size"
  | maxInFlight => "max_in_flight_dispatches"
  | windowSeconds => "rate_window_secs"
  | defaultThreshold => "default_similarity_threshold"
  | feedCapacity => "match_broadcast_capacity"
  | maxFires => "default_max_fires_per_minute"
  | enabled => "prometheus_enabled"
  | portNumber => "prometheus_port"

theorem name_injective : Function.Injective name := by
  intro f g h
  cases f <;> cases g <;> first | rfl | exact absurd h (by decide)

/-- What the field holds. -/
abbrev Value : Field → Type
  | rootDir => String
  | defaultThreshold => Single
  | enabled => Bool
  | _ => Nat

/-- The field of a configuration. -/
def get (c : Config) : (f : Field) → f.Value
  | rootDir => c.storage.rootDir
  | cacheBytes => c.storage.cacheBytes
  | flushMillis => c.storage.flushMillis
  | queueSize => c.engine.queueSize
  | maxInFlight => c.engine.maxInFlight
  | windowSeconds => c.engine.windowSeconds
  | defaultThreshold => c.engine.defaultThreshold
  | feedCapacity => c.engine.feedCapacity
  | maxFires => c.compiler.maxFires
  | enabled => c.monitoring.enabled
  | portNumber => c.monitoring.portNumber

/-- What a setting says to the field, if it says anything. -/
def read : (f : Field) → Setting → Option f.Value
  | rootDir => Setting.string?
  | cacheBytes | flushMillis | queueSize | maxInFlight | windowSeconds | feedCapacity =>
    Setting.unsigned? 64
  | defaultThreshold => Setting.single?
  | maxFires => Setting.unsigned? 32
  | enabled => Setting.bool?
  | portNumber => Setting.unsigned? 16

/-- The same value, where all that is no number counts as the same. -/
def Same : (f : Field) → f.Value → f.Value → Prop
  | defaultThreshold, x, y => if y.isNaN then x.isNaN = true else x = y
  | _, x, y => x = y

/-- What the field of a configuration is written as. -/
def written (c : Config) : Field → Option Setting
  | rootDir => some (.text c.storage.rootDir)
  | cacheBytes => Setting.ofSize? c.storage.cacheBytes
  | flushMillis => Setting.ofSize? c.storage.flushMillis
  | queueSize => Setting.ofSize? c.engine.queueSize
  | maxInFlight => Setting.ofSize? c.engine.maxInFlight
  | windowSeconds => Setting.ofSize? c.engine.windowSeconds
  | defaultThreshold => some (.double (.ofSingle c.engine.defaultThreshold))
  | feedCapacity => Setting.ofSize? c.engine.feedCapacity
  | maxFires => Setting.ofSize? c.compiler.maxFires
  | enabled => some (.flag c.monitoring.enabled)
  | portNumber => Setting.ofSize? c.monitoring.portNumber

end Field

end Config

namespace Setting

/-- A group of settings. -/
def isTable : Setting → Bool
  | table _ => true
  | _ => false

/-- What stands at the place of a field. -/
def field? (s : Setting) (f : Config.Field) : Option Setting := s.at? [f.part, f.name]

/-- A table with a table for each section. -/
structure Tabular (s : Setting) : Prop where
  root : s.isTable = true
  parts : ∀ part ∈ Config.names, ∃ rows, Table.find part s.rows = some (.table rows)

end Setting

namespace Setting

variable {s : Setting} {f : Config.Field} {rows : List (String × Setting)}

theorem field?_def (s : Setting) (f : Config.Field) :
    s.field? f = (Table.find f.part s.rows).bind fun u => Table.find f.name u.rows := by
  show (Table.find f.part s.rows).bind (fun u => (Table.find f.name u.rows).bind some) = _
  simp only [Option.bind_fun_some]

/-- The place of a field is within the table of its section. -/
theorem field?_eq (h : Table.find f.part s.rows = some (.table rows)) :
    s.field? f = Table.find f.name rows := by
  rw [field?_def, h]
  rfl

end Setting

/-! ### Reading -/

open Setting (orDefault)

section Reading

variable {rows : List (String × Setting)}

theorem StorageConfig.ofSetting?_table {c : StorageConfig} (h : ofSetting? (.table rows) = some c) :
    orDefault default.rootDir Setting.string? (Table.find "db_root_dir" rows) = some c.rootDir ∧
    orDefault default.cacheBytes (Setting.unsigned? 64) (Table.find "cache_capacity_bytes" rows) =
      some c.cacheBytes ∧
    orDefault default.flushMillis (Setting.unsigned? 64) (Table.find "flush_every_ms" rows) =
      some c.flushMillis := by
  simp only [ofSetting?, Setting.slots?, names, List.map_cons, List.map_nil, Option.bind_eq_bind,
    Option.bind_some, Option.bind_eq_some_iff, Option.some.injEq] at h
  obtain ⟨_, hrootDir, _, hcacheBytes, _, hflushMillis, rfl⟩ := h
  exact ⟨hrootDir, hcacheBytes, hflushMillis⟩

theorem EngineConfig.ofSetting?_table {c : EngineConfig} (h : ofSetting? (.table rows) = some c) :
    orDefault default.queueSize (Setting.unsigned? 64) (Table.find "dispatch_queue_size" rows) =
      some c.queueSize ∧
    orDefault default.maxInFlight (Setting.unsigned? 64)
      (Table.find "max_in_flight_dispatches" rows) = some c.maxInFlight ∧
    orDefault default.windowSeconds (Setting.unsigned? 64) (Table.find "rate_window_secs" rows) =
      some c.windowSeconds ∧
    orDefault default.defaultThreshold Setting.single?
      (Table.find "default_similarity_threshold" rows) = some c.defaultThreshold ∧
    orDefault default.feedCapacity (Setting.unsigned? 64)
      (Table.find "match_broadcast_capacity" rows) = some c.feedCapacity := by
  simp only [ofSetting?, Setting.slots?, names, List.map_cons, List.map_nil, Option.bind_eq_bind,
    Option.bind_some, Option.bind_eq_some_iff, Option.some.injEq] at h
  obtain ⟨_, hqueueSize, _, hmaxInFlight, _, hwindow, _, hthreshold, _, hfeed, rfl⟩ := h
  exact ⟨hqueueSize, hmaxInFlight, hwindow, hthreshold, hfeed⟩

theorem CompilerConfig.ofSetting?_table {c : CompilerConfig}
    (h : ofSetting? (.table rows) = some c) :
    orDefault default.maxFires (Setting.unsigned? 32)
      (Table.find "default_max_fires_per_minute" rows) = some c.maxFires := by
  simp only [ofSetting?, Setting.slots?, names, List.map_cons, List.map_nil, Option.bind_eq_bind,
    Option.bind_some, Option.bind_eq_some_iff, Option.some.injEq] at h
  obtain ⟨_, hmaxFires, rfl⟩ := h
  exact hmaxFires

theorem MonitoringConfig.ofSetting?_table {c : MonitoringConfig}
    (h : ofSetting? (.table rows) = some c) :
    orDefault default.enabled Setting.bool? (Table.find "prometheus_enabled" rows) =
      some c.enabled ∧
    orDefault default.portNumber (Setting.unsigned? 16) (Table.find "prometheus_port" rows) =
      some c.portNumber := by
  simp only [ofSetting?, Setting.slots?, names, List.map_cons, List.map_nil, Option.bind_eq_bind,
    Option.bind_some, Option.bind_eq_some_iff, Option.some.injEq] at h
  obtain ⟨_, henabled, _, hportNumber, rfl⟩ := h
  exact ⟨henabled, hportNumber⟩

end Reading

namespace Config

variable {c : Config} {s : Setting}

/-- No group of settings says anything to a field. -/
theorem Field.isTable_of_read {f : Field} {x : f.Value} (h : f.read s = some x) :
    s.isTable = false := by
  cases s with
  | table => cases f <;> cases h
  | _ => rfl

/-- Each field is what its setting says to it, or its default if it has no setting. -/
theorem read_of_ofSetting? (hs : s.Tabular) (h : ofSetting? s = some c) (f : Field) :
    orDefault (f.get default) f.read (s.field? f) = some (f.get c) := by
  obtain ⟨rows, rfl⟩ : ∃ rows, s = .table rows := by
    cases s with
    | table rows => exact ⟨rows, rfl⟩
    | _ => cases hs.root
  obtain ⟨storage, hstorage⟩ := hs.parts "storage" (by decide)
  obtain ⟨engine, hengine⟩ := hs.parts "engine" (by decide)
  obtain ⟨compiler, hcompiler⟩ := hs.parts "compiler" (by decide)
  obtain ⟨monitoring, hmonitoring⟩ := hs.parts "monitoring" (by decide)
  simp only [ofSetting?, Setting.slots?, names, List.map_cons, List.map_nil, Option.bind_eq_bind,
    Option.bind_some, Option.bind_eq_some_iff, Option.some.injEq] at h
  obtain ⟨c₁, h₁, c₂, h₂, c₃, h₃, c₄, h₄, rfl⟩ := h
  rw [show Table.find "storage" rows = _ from hstorage] at h₁
  rw [show Table.find "engine" rows = _ from hengine] at h₂
  rw [show Table.find "compiler" rows = _ from hcompiler] at h₃
  rw [show Table.find "monitoring" rows = _ from hmonitoring] at h₄
  obtain ⟨hrootDir, hcacheBytes, hflushMillis⟩ := StorageConfig.ofSetting?_table h₁
  obtain ⟨hqueueSize, hmaxInFlight, hwindow, hthreshold, hfeed⟩ := EngineConfig.ofSetting?_table h₂
  have hmaxFires := CompilerConfig.ofSetting?_table h₃
  obtain ⟨henabled, hportNumber⟩ := MonitoringConfig.ofSetting?_table h₄
  have hfield : ∀ {f : Field} {rs : List (String × Setting)} {x : f.Value},
      Table.find f.part rows = some (.table rs) →
        orDefault (f.get default) f.read (Table.find f.name rs) = some x →
          orDefault (f.get default) f.read (Setting.field? (.table rows) f) = some x :=
    fun hpart hx => by rwa [Setting.field?_eq hpart]
  cases f with
  | rootDir => exact hfield (f := .rootDir) hstorage hrootDir
  | cacheBytes => exact hfield (f := .cacheBytes) hstorage hcacheBytes
  | flushMillis => exact hfield (f := .flushMillis) hstorage hflushMillis
  | queueSize => exact hfield (f := .queueSize) hengine hqueueSize
  | maxInFlight => exact hfield (f := .maxInFlight) hengine hmaxInFlight
  | windowSeconds => exact hfield (f := .windowSeconds) hengine hwindow
  | defaultThreshold => exact hfield (f := .defaultThreshold) hengine hthreshold
  | feedCapacity => exact hfield (f := .feedCapacity) hengine hfeed
  | maxFires => exact hfield (f := .maxFires) hcompiler hmaxFires
  | enabled => exact hfield (f := .enabled) hmonitoring henabled
  | portNumber => exact hfield (f := .portNumber) hmonitoring hportNumber

end Config

/-! ### Writing -/

namespace Setting

variable {s : Setting}

/-- A table that is written has the rows that are to be written, and they are all there. -/
theorem ofRows?_eq_some {rows : List (String × Option Setting)} (h : ofRows? rows = some s) :
    s.isTable = true ∧ (∀ r ∈ rows, r.2.isSome = true) ∧
      ∀ name, Table.find name s.rows = (Table.find name rows).join := by
  obtain ⟨rs, hrs, rfl⟩ := Option.map_eq_some_iff.1 h
  refine ⟨rfl, ?_⟩
  show _ ∧ ∀ name, Table.find name rs = _
  clear h
  induction rows generalizing rs with
  | nil =>
    obtain rfl := Option.some.inj hrs
    exact ⟨nofun, fun _ => rfl⟩
  | cons r rows ih =>
    simp only [List.mapM_cons, Option.bind_eq_bind, Option.bind_eq_some_iff,
      Option.map_eq_some_iff] at hrs
    obtain ⟨_, ⟨v, hv, rfl⟩, rest, hrest, he⟩ := hrs
    obtain rfl := Option.some.inj he
    obtain ⟨hall, hfind⟩ := ih rest hrest
    refine ⟨List.forall_mem_cons.2 ⟨by simp [hv], hall⟩, fun name => ?_⟩
    obtain ⟨k, _⟩ := r
    obtain rfl := hv
    simp only [Table.find, hfind]
    split <;> rfl

/-- Rows of a table within a table that is written. -/
theorem ofRows?_within {rows inner : List (String × Option Setting)} (h : ofRows? rows = some s)
    {part name : String} {v : Option Setting} (hpart : Table.find part rows = some (ofRows? inner))
    (hname : Table.find name inner = some v) : ∃ rs u,
      Table.find part s.rows = some (.table rs) ∧ v = some u ∧ Table.find name rs = some u := by
  obtain ⟨-, hall, hfind⟩ := ofRows?_eq_some h
  obtain ⟨t, ht⟩ := Option.isSome_iff_exists.1 (hall _ (Table.mem_of_find hpart))
  obtain ⟨htable, hall', hfind'⟩ := ofRows?_eq_some ht
  obtain ⟨u, rfl⟩ := Option.isSome_iff_exists.1 (hall' _ (Table.mem_of_find hname))
  cases t with
  | table rs =>
    refine ⟨rs, u, (hfind part).trans ?_, rfl, (hfind' name).trans ?_⟩
    · rw [hpart]
      exact ht
    · rw [hname]
      rfl
  | _ => cases htable

/-- A size is read as what it was written for, if it is not too great for the field. -/
theorem unsigned?_ofSize? {bits n x : Nat} (h : ofSize? n = some s)
    (hread : s.unsigned? bits = some x) : x = n := by
  unfold ofSize? at h
  split at h
  · obtain rfl := Option.some.inj h
    simp only [unsigned?, whole?, Option.bind_eq_bind, Option.bind_some] at hread
    split at hread
    · exact (Option.some.inj hread).symm
    · cases hread
  · cases h

end Setting

namespace Config

variable {c : Config} {s : Setting}

/-- The table of a section has its fields as they are written. -/
theorem Field.exists_rows (h : c.toSetting? = some s) (f : Field) : ∃ rs u,
    Table.find f.part s.rows = some (.table rs) ∧ f.written c = some u ∧
      Table.find f.name rs = some u := by
  cases f <;> exact Setting.ofRows?_within h rfl rfl

theorem tabular_toSetting? (h : c.toSetting? = some s) : s.Tabular where
  root := (Setting.ofRows?_eq_some h).1
  parts := by
    have hpart : ∀ f : Field, ∃ rows, Table.find f.part s.rows = some (.table rows) := fun f => by
      obtain ⟨rows, -, hrows, -⟩ := f.exists_rows h
      exact ⟨rows, hrows⟩
    simpa [names] using ⟨hpart .rootDir, hpart .queueSize, hpart .maxFires, hpart .enabled⟩

theorem exists_written (h : c.toSetting? = some s) (f : Field) :
    ∃ u, s.field? f = some u ∧ f.written c = some u := by
  obtain ⟨rows, u, hrows, hu, hrow⟩ := f.exists_rows h
  exact ⟨u, (Setting.field?_eq hrows).trans hrow, hu⟩

/-- What a field is written as is read as the same. -/
theorem Field.same_of_written {f : Field} {x : f.Value} (h : f.written c = some s)
    (hread : f.read s = some x) : f.Same x (f.get c) := by
  cases f with
  | rootDir | enabled =>
    obtain rfl := Option.some.inj h
    exact (Option.some.inj hread).symm
  | defaultThreshold =>
    obtain rfl := Option.some.inj h
    obtain rfl : (Double.ofSingle c.engine.defaultThreshold).toSingle = x := Option.some.inj hread
    show if c.engine.defaultThreshold.isNaN then _ else _
    split
    · next hnan => exact Single.isNaN_toSingle_ofSingle hnan
    · next hnumber => exact Single.toSingle_ofSingle (Bool.eq_false_iff.2 hnumber)
  | _ => exact Setting.unsigned?_ofSize? h hread

end Config

end Watchtower
