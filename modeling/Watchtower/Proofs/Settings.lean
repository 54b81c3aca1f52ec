import Mathlib.Tactic.Common
import Watchtower.Deployment
import Watchtower.Proofs.ActiveSet
import Watchtower.Proofs.Run.Traffic

/-!
Settings without defects, and what can be built from them.

An examination of settings looks at sizes from below: none of them may be zero. Queues, permits and
feeds have greatest sizes as well, beyond which they cannot be built, and stores have a least cache.
The queue and the feed are built with the engine, and the permits when it is started for the first
time. So what has no defect can be built, and started at any time, exactly if these bounds are kept
to as well (`Config.builds_and_starts_iff`).
-/

namespace Watchtower

/-! ### Defects -/

theorem firstOf_eq_none {defects : List (Option ConfigDefect)} :
    firstOf defects = none ↔ ∀ d ∈ defects, d = none := by
  simp [firstOf]

theorem defectIf_eq_none {condition : Bool} {d : ConfigDefect} :
    defectIf condition d = none ↔ condition = false := by
  cases condition <;> simp [defectIf]

namespace EngineConfig

variable {c : EngineConfig}

/-- Sizes that are not zero, and a default threshold above zero that is at most one. -/
theorem defect?_eq_none : c.defect? = none ↔
    0 < c.queueSize ∧ 0 < c.maxInFlight ∧ 0 < c.windowSeconds ∧
      (c.defaultThreshold.isPositive && c.defaultThreshold.atMost .one) = true ∧
        0 < c.feedCapacity := by
  simp [defect?, firstOf_eq_none, defectIf_eq_none, Nat.pos_iff_ne_zero]

end EngineConfig

theorem Config.defect?_eq_none {c : Config} {t : FileTree} : c.defect? t = none ↔
    (c.storage.examine t).2 = none ∧ c.engine.defect? = none ∧ c.compiler.defect? = none ∧
      c.monitoring.defect? = none := by
  simp [defect?, examine, firstOf_eq_none]

/-! ### Sizes that can be built -/

/-- Neither the queue nor the permits nor the feed are greater than can be built. -/
structure EngineConfig.Sized (c : EngineConfig) : Prop where
  queue : c.queueSize ≤ Engine.greatestPermits
  permits : c.maxInFlight ≤ Engine.greatestPermits
  feed : c.feedCapacity ≤ Engine.greatestFeed

namespace Engine

variable {config : EngineConfig}

/-- If no size is zero, building fails exactly if the queue or the feed is too great. -/
theorem build_cases (exports : Bool) (h : config.defect? = none) :
    (build config exports = .error .impossibleSize ∧ ¬ config.Sized) ∨
    (∃ e, build config exports = .ok e) ∧ config.queueSize ≤ greatestPermits ∧
      config.feedCapacity ≤ greatestFeed := by
  obtain ⟨hqueue, -, -, -, hfeed⟩ := EngineConfig.defect?_eq_none.1 h
  unfold build
  split
  · next hsize =>
    refine .inl ⟨rfl, fun hsized => ?_⟩
    have hq := hsized.queue
    have hf := hsized.feed
    omega
  · next hsize =>
    simp only [not_or, Nat.not_lt] at hsize
    exact .inr ⟨⟨_, rfl⟩, hsize.2.1, hsize.2.2.2⟩

end Engine

namespace System

variable {s t : System} {outage : Outage} {hasRuntime : Bool} {ms : List Move}

/-- A start fails for a size if it is the first one, the reload works, and the permits are too
many. -/
theorem start_impossible_iff : (s.start outage hasRuntime).2 = .error .impossibleSize ↔
    hasRuntime = true ∧ s.engine.stopped = false ∧ s.engine.dispatch.receiver = .parked ∧
      (s.reload outage).2 = .ok () ∧ Engine.greatestPermits < s.engine.dispatch.limit := by
  have hlimit : (s.reload outage).1.engine.dispatch.limit = s.engine.dispatch.limit :=
    congrArg (·.dispatch.limit) (s.reload_reloaded outage).engine.traffic
  unfold start
  cases hasRuntime with
  | false => simp
  | true =>
    cases s.engine.stopped with
    | true => simp
    | false =>
      cases s.engine.dispatch.receiver with
      | waking | waiting | holding | gone => simp
      | parked =>
        rcases hreload : s.reload outage with ⟨t, f | u⟩
        · simp
        · replace hlimit : t.engine.dispatch.limit = s.engine.dispatch.limit :=
            (congrArg (·.1.engine.dispatch.limit) hreload).symm.trans hlimit
          by_cases hpermits : Engine.greatestPermits < s.engine.dispatch.limit
          · simp [hlimit, hpermits]
          · simp [hlimit, hpermits]

/-- How many permits there are never changes. -/
theorem limit_run (h : s.run? ms = some t) :
    t.engine.dispatch.limit = s.engine.dispatch.limit :=
  run?_keeps (P := fun u => u.engine.dispatch.limit = s.engine.dispatch.limit)
    (fun _ hmove hu => (traffic_step hmove).sizes.2.trans hu) rfl h

/-- At no time in what becomes of the system does a start fail for a size. -/
def Startable (s : System) : Prop :=
  ∀ {ms : List Move} {t : System} (outage : Outage) (hasRuntime : Bool), s.run? ms = some t →
    (t.start outage hasRuntime).2 ≠ .error .impossibleSize

/-- A new engine can always be started unless it is to have too many permits: then the first start
fails, if nothing else is in its way. -/
theorem startable_iff_permits {config : EngineConfig} {exports : Bool}
    (hb : Engine.build config exports = .ok s.engine) :
    s.Startable ↔ config.maxInFlight ≤ Engine.greatestPermits := by
  obtain ⟨hdispatch, -, hstopped⟩ := Traffic.mk.inj (Engine.build_eq_ok hb).1
  have hlimit : s.engine.dispatch.limit = config.maxInFlight := congrArg (·.limit) hdispatch
  constructor
  · intro hstartable
    obtain ⟨t, hreload⟩ : ∃ t, s.reload .none = (t, .ok ()) := reload_of_works rfl fun _ _ _ => rfl
    have hparked : s.engine.dispatch.receiver = .parked := congrArg (·.receiver) hdispatch
    by_contra hpermits
    have hself : s.run? [] = some s := rfl
    exact hstartable .none true hself (start_impossible_iff.2
      ⟨rfl, hstopped, hparked, congrArg Prod.snd hreload, by omega⟩)
  · intro hpermits ms t outage hasRuntime hrun himpossible
    have htoo := (start_impossible_iff.1 himpossible).2.2.2.2
    rw [limit_run hrun] at htoo
    omega

end System

/-- The engine can be built, and started over every store and at any time. -/
def EngineConfig.Startable (c : EngineConfig) : Prop :=
  ∀ exports, Engine.build c exports ≠ .error .impossibleSize ∧
    ∀ s : System, Engine.build c exports = .ok s.engine → s.Startable

/-- From engine settings without a defect an engine can be built and started exactly if none of the
sizes is too great. -/
theorem EngineConfig.startable_iff {c : EngineConfig} (h : c.defect? = none) :
    c.Startable ↔ c.Sized := by
  constructor
  · intro hstartable
    obtain ⟨hbuilds, hstarts⟩ := hstartable false
    rcases Engine.build_cases false h with ⟨herror, -⟩ | ⟨⟨e, hb⟩, hq, hf⟩
    · exact absurd herror hbuilds
    · have hnew : (System.mk .empty e .zero []).Startable := hstarts _ hb
      have hpermits := (System.startable_iff_permits hb).1 hnew
      exact ⟨hq, hpermits, hf⟩
  · intro hsized exports
    rcases Engine.build_cases exports h with ⟨-, hnot⟩ | ⟨⟨e, hb⟩, -, -⟩
    · exact absurd hsized hnot
    · rw [hb]
      refine ⟨nofun, fun s hs => ?_⟩
      obtain rfl := Except.ok.inj hs
      exact (System.startable_iff_permits hb).2 hsized.permits

namespace Deployment

variable {host : Host} {t : FileTree} {c : Config}

/-- The path of the store is refused, so that the store cannot be opened. -/
def Unopenable (t : FileTree) (c : Config) : Prop :=
  storeFault? (c.examine t).1 c.storage = some (.store .unopened)

theorem storeFault?_cases (t : FileTree) (c : StorageConfig) :
    storeFault? t c = some (.store .unopened) ∨
    (storeFault? t c = some .impossibleSize ∧ c.cacheBytes < 256) ∨
    (storeFault? t c = none ∧ 256 ≤ c.cacheBytes) := by
  unfold storeFault?
  dsimp only
  split
  · exact .inl rfl
  split
  · next h => exact .inr (.inl ⟨rfl, h⟩)
  · next h => exact .inr (.inr ⟨rfl, Nat.not_lt.1 h⟩)

/-- Settings without a defect lead to a deployment unless the store is at fault. -/
theorem ofConfig_of_valid (host : Host) (h : c.defect? t = none) : ofConfig host t c =
    match storeFault? (c.examine t).1 c.storage with
    | some f => .error f
    | none => create
        { host with exporter := if c.monitoring.enabled then .enabled else .disabled }
        c.engine c.compiler .empty := by
  have hexamined : (c.examine t).2 = none := h
  unfold ofConfig
  dsimp only
  rw [hexamined]
  cases storeFault? (c.examine t).1 c.storage <;> rfl

/-- A deployment can be created and started exactly if none of the sizes is too great. -/
theorem create_startable_iff {config : EngineConfig} (h : config.defect? = none) (host : Host)
    (compiler : CompilerConfig) (symbols : Table String) :
    (create host config compiler symbols ≠ .error .impossibleSize ∧
      ∀ d, create host config compiler symbols = .ok d → d.system.Startable) ↔ config.Sized := by
  rcases Engine.build_cases (host.exporter ≠ .disabled) h with ⟨herror, hnot⟩ | ⟨⟨e, hb⟩, hq, hf⟩
  · have hcreate : create host config compiler symbols = .error .impossibleSize := by
      unfold create
      rw [herror]
      rfl
    exact iff_of_false (fun hstartable => hstartable.1 hcreate) hnot
  · obtain ⟨d, hcreate, rfl⟩ :
        ∃ d, create host config compiler symbols = .ok d ∧ d.system.engine = e := by
      unfold create
      rw [hb]
      exact ⟨_, rfl, rfl⟩
    rw [hcreate]
    constructor
    · rintro ⟨-, hstarts⟩
      exact ⟨hq, (System.startable_iff_permits hb).1 (hstarts d rfl), hf⟩
    · intro hsized
      refine ⟨by simp, fun d' hd => ?_⟩
      obtain rfl := Except.ok.inj hd
      exact (System.startable_iff_permits hb).2 hsized.permits

end Deployment

/-- The deployment of the settings can be opened and built, and started at any time. -/
def Config.Startable (c : Config) (t : FileTree) : Prop :=
  ∀ host, Deployment.ofConfig host t c ≠ .error .impossibleSize ∧
    ∀ d, Deployment.ofConfig host t c = .ok d → d.system.Startable

/-- From settings without a defect an engine can be built and started, over any store, exactly if
none of its sizes is too great. With the store that the settings describe that is so exactly if the
cache is not too small either, unless the store cannot be opened in the first place. -/
theorem Config.builds_and_starts_iff {c : Config} {t : FileTree} (h : c.defect? t = none) :
    (c.engine.Startable ↔ c.engine.Sized) ∧
    (c.Startable t ↔
      Deployment.Unopenable t c ∨ 256 ≤ c.storage.cacheBytes ∧ c.engine.Sized) := by
  have hvalid := (Config.defect?_eq_none.1 h).2.1
  refine ⟨EngineConfig.startable_iff hvalid, ?_⟩
  have hof := fun host => Deployment.ofConfig_of_valid host h
  have host : Host := ⟨true, true, true, .disabled, true⟩
  rcases Deployment.storeFault?_cases (c.examine t).1 c.storage with
    hfault | ⟨hfault, hcache⟩ | ⟨hfault, hcache⟩
  · simp only [hfault] at hof
    refine iff_of_true (fun host => ?_) (.inl hfault)
    rw [hof]
    exact ⟨by simp, by simp⟩
  · simp only [hfault] at hof
    refine iff_of_false (fun hstartable => (hstartable host).1 (hof host)) ?_
    rintro (hunopened | ⟨hcache', -⟩)
    · cases hfault.symm.trans hunopened
    · omega
  · simp only [hfault] at hof
    have hopened : ¬ Deployment.Unopenable t c := fun hunopened => by
      cases hfault.symm.trans hunopened
    rw [or_iff_right hopened, and_iff_right hcache, Config.Startable]
    simp only [hof, Deployment.create_startable_iff hvalid]
    exact ⟨fun hsized => hsized host, fun hsized _ => hsized⟩

/-! Settings with the store in a root that is empty. -/

namespace Sample

def emptyRoot : FileTree := ⟨[], .directory []⟩

/-- The default settings apart from the place of the store, with a queue of any size. -/
def queueing (queueSize : Nat) : Config where
  storage := { StorageConfig.default with rootDir := "/" }
  engine := { EngineConfig.default with queueSize }
  compiler := .default
  monitoring := .default

theorem steps_root : Steps.ofPath "/" = [] := by
  rw [Steps.ofPath, String.splitOn, if_neg (by decide), String.splitOnAux, if_neg (by decide),
    if_pos (by decide)]
  dsimp only
  rw [if_pos (by decide), String.splitOnAux, if_pos (by decide)]
  decide

theorem claim_emptyRoot : emptyRoot.claim "/" = (emptyRoot, none) := by
  have hentry : (emptyRoot.entry? "/").isSome = true := by
    unfold FileTree.entry?
    rw [steps_root]
    decide +kernel
  have hobstacle : emptyRoot.obstacle? "/" FileTree.probe = none := by
    unfold FileTree.obstacle?
    rw [steps_root]
    decide +kernel
  unfold FileTree.claim
  rw [if_neg (by decide), if_pos hentry]
  dsimp only
  rw [hobstacle]
  rfl

theorem examine_queueing (queueSize : Nat) (h : 0 < queueSize) :
    (queueing queueSize).examine emptyRoot = (emptyRoot, none) := by
  have hstorage : (queueing queueSize).storage.examine emptyRoot = (emptyRoot, none) := by
    have hcache : ¬ StorageConfig.default.cacheBytes = 0 := by decide
    rw [← claim_emptyRoot]
    exact if_neg hcache
  obtain ⟨-, hpermits, hwindow, hthreshold, hfeed⟩ :=
    EngineConfig.defect?_eq_none.1 (show EngineConfig.default.defect? = none by decide +kernel)
  have hengine : (queueing queueSize).engine.defect? = none :=
    EngineConfig.defect?_eq_none.2 ⟨h, hpermits, hwindow, hthreshold, hfeed⟩
  unfold Config.examine
  rw [hstorage, hengine]
  rfl

end Sample

namespace Config

/-- The default sizes can be built and started, with a store of their own and over any other. -/
theorem sample_builds_and_starts : (Sample.queueing 1024).engine.Startable ∧
    (Sample.queueing 1024).Startable Sample.emptyRoot := by
  have hsized : (Sample.queueing 1024).engine.Sized := ⟨by decide, by decide, by decide⟩
  obtain ⟨hengine, hstore⟩ :=
    builds_and_starts_iff (congrArg Prod.snd (Sample.examine_queueing 1024 (by decide)))
  exact ⟨hengine.2 hsized, hstore.2 (.inr ⟨by decide, hsized⟩)⟩

/-- Not everything without a defect can be built: a queue can be too great. -/
theorem not_startable : ¬ ∀ (c : Config) (t : FileTree), c.defect? t = none →
    c.engine.Startable ∧ c.Startable t := by
  intro hall
  have hexamined := Sample.examine_queueing (Numeric.pow2 61) (by decide)
  have hfault : Deployment.storeFault? Sample.emptyRoot
      (Sample.queueing (Numeric.pow2 61)).storage = none := by decide +kernel
  refine ((hall _ Sample.emptyRoot (congrArg Prod.snd hexamined)).2
    ⟨true, true, true, .disabled, true⟩).1 ?_
  rw [Deployment.ofConfig_of_valid _ (congrArg Prod.snd hexamined), hexamined]
  dsimp only
  rw [hfault]
  rfl

end Config

end Watchtower
