import Mathlib.Data.List.Induction
import Mathlib.Tactic.Common
import Watchtower.Proofs.Compilation.Convergence
import Watchtower.Proofs.Intake
import Watchtower.Proofs.Run.StoreChanges
import Watchtower.Proofs.Run.TakeOver
import Watchtower.Proofs.Settings

/-!
Which thresholds similarity evaluators are given.

A threshold is to lie above zero and to be at most one. Nothing looks at the thresholds of watchers
that are stored, so they may be any patterns. What is not positive, be it a number or none, gives
way to the default of the engine, which is looked at; what lies above one does not. So the evaluator
is given thresholds in range, each the stored one or else the default, exactly if it is asked about
no predicate that is stored with a threshold above one (`System.thresholds_in_range_iff`).
-/

namespace Watchtower

open Numeric (Single)

/-! ### One threshold -/

namespace Numeric.Single

/-- Above zero and at most one. -/
def inRange (x : Single) : Bool := x.isPositive && x.atMost .one

/-- A number above one, such as infinity. -/
def exceedsOne (x : Single) : Bool := x.isPositive && !x.atMost .one

end Numeric.Single

namespace Evaluators

/-- The threshold that the evaluator is to be given: the stored one if it is in range, else the
default. -/
def fitting (default threshold : Single) : Single :=
  if threshold.inRange then threshold else default

variable {default x : Single}

theorem inRange_effective_iff (hdefault : default.inRange = true) :
    (effective default x).inRange = true ↔ x.exceedsOne = false := by
  unfold effective Single.exceedsOne
  split
  · next hpos => simp [Single.inRange, hpos]
  · next hpos => simp [hdefault, hpos]

/-- What exceeds one is passed on, and so is not the default. -/
theorem effective_eq_fitting_iff (hdefault : default.inRange = true) :
    effective default x = fitting default x ↔ x.exceedsOne = false := by
  rw [← inRange_effective_iff hdefault]
  constructor
  · intro h
    rw [h, fitting]
    split
    · assumption
    · exact hdefault
  · intro h
    unfold effective fitting at *
    split at h
    · next hpos => rw [if_pos hpos, if_pos h]
    · next hpos =>
      have hout : ¬ x.inRange = true := by simp [Single.inRange, hpos]
      rw [if_neg hpos, if_neg hout]

end Evaluators

/-! ### What evaluators are asked about -/

namespace Consultation

/-- The threshold of a similarity predicate. -/
def threshold? : Consultation → Option Single
  | .query _ => none
  | .similarity _ threshold _ => some threshold

/-- The same predicate with its threshold changed. -/
def withThreshold (change : Single → Single) : Consultation → Consultation
  | .query predicate => .query predicate
  | .similarity text threshold cluster => .similarity text (change threshold) cluster

/-- The predicate has no threshold above one. -/
def Bounded (c : Consultation) : Prop := ∀ x ∈ c.threshold?, x.exceedsOne = false

/-- The predicate has no threshold out of range. -/
def InRange (c : Consultation) : Prop := ∀ x ∈ c.threshold?, x.inRange = true

variable {default : Single} {c : Consultation}

theorem inRange_withThreshold_iff (hdefault : default.inRange = true) :
    (c.withThreshold (Evaluators.effective default)).InRange ↔ c.Bounded := by
  cases c with
  | query => simp [withThreshold, InRange, Bounded, threshold?]
  | similarity text threshold cluster =>
    simp [withThreshold, InRange, Bounded, threshold?, Evaluators.inRange_effective_iff hdefault]

theorem withThreshold_fitting_iff (hdefault : default.inRange = true) :
    c.withThreshold (Evaluators.effective default) = c.withThreshold (Evaluators.fitting default) ↔
      c.Bounded := by
  cases c with
  | query => simp [withThreshold, Bounded, threshold?]
  | similarity text threshold cluster =>
    simp [withThreshold, Bounded, threshold?, Evaluators.effective_eq_fitting_iff hdefault]

end Consultation

/-- The predicates of a rule in the order in which they are put to evaluators, as they are stored:
the primary one and the antecedent. -/
def Rule.predicates (r : Rule) : List Consultation :=
  let primary := match r.query, r.similarity with
    | some predicate, _ => [Consultation.query predicate]
    | none, some s => [.similarity s.query s.threshold s.cluster]
    | none, none => []
  primary ++ (r.antecedent.map fun u => Consultation.similarity u.query u.threshold none).toList

/-- A verdict puts predicates to evaluators in this order, and all of them if it is a match. -/
structure Verdict.Puts (v : Verdict) (predicates : List Consultation) : Prop where
  inOrder : v.consulted <+: predicates
  all : v.matched = true → v.consulted = predicates

namespace Verdict.Puts

theorem plain (matched : Bool) : (Verdict.plain matched).Puts [] := ⟨List.prefix_rfl, fun _ => rfl⟩

theorem of_unasked (predicates : List Consultation) (events : List Event) :
    (Verdict.mk false [] events).Puts predicates := ⟨List.nil_prefix, nofun⟩

theorem ofAnswer (asked : Consultation) (failed : Event) (answer : Except Fault Bool) :
    (Verdict.ofAnswer asked failed answer).Puts [asked] := by
  cases answer <;> exact ⟨List.prefix_rfl, fun _ => rfl⟩

theorem andThen {v : Verdict} {next : Unit → Verdict} {cs ds : List Consultation} (hv : v.Puts cs)
    (hnext : (next ()).Puts ds) : (v.andThen next).Puts (cs ++ ds) := by
  unfold Verdict.andThen
  split
  · next hmatched =>
    rw [← hv.all hmatched]
    exact ⟨(List.prefix_append_right_inj _).2 hnext.inOrder, fun h => congrArg _ (hnext.all h)⟩
  · next hmatched => exact ⟨hv.inOrder.trans (List.prefix_append _ _), fun h => absurd h hmatched⟩

end Verdict.Puts

namespace Evaluators

variable (es : Evaluators) (default : Single) (w : Watcher) (a : Attestation)

theorem puts_askQuery (predicate : String) :
    (es.askQuery w a predicate).Puts [.query predicate] := by
  unfold askQuery
  cases es.query with
  | none => exact .of_unasked ..
  | some evaluate => exact .ofAnswer ..

theorem puts_askSimilarity (query : String) (threshold : Single) (cluster : Option Int) :
    (es.askSimilarity default w a query threshold cluster).Puts
      [.similarity query (effective default threshold) cluster] := by
  unfold askSimilarity
  cases es.similarity with
  | none => exact .of_unasked ..
  | some evaluate => exact .ofAnswer ..

theorem puts_askFilter : (askFilter w a).Puts [] := by
  unfold askFilter
  dsimp only
  split
  · exact .plain false
  split
  · exact .plain true
  · exact .of_unasked ..

/-- A watcher puts its predicates to evaluators in their order, with the thresholds in effect. -/
theorem puts_judge : (es.judge default w a).Puts
    (w.rule.predicates.map (Consultation.withThreshold (effective default))) := by
  rw [Rule.predicates, List.map_append]
  refine (puts_askFilter w a).andThen (.andThen ?_ ?_)
  · unfold askPrimary
    cases w.rule.query with
    | some predicate => exact puts_askQuery es w a predicate
    | none =>
      cases w.rule.similarity with
      | some s => exact puts_askSimilarity es default w a s.query s.threshold s.cluster
      | none => exact .plain true
  · unfold askAntecedent
    cases w.rule.antecedent with
    | some u => exact puts_askSimilarity es default w a u.query u.threshold none
    | none => exact .plain true

/-- The predicates of a watcher that are put to evaluators for an attestation, as they are
stored. -/
def asked : List Consultation := w.rule.predicates.take (es.judge default w a).consulted.length

theorem consulted_judge : (es.judge default w a).consulted =
    (es.asked default w a).map (Consultation.withThreshold (effective default)) := by
  rw [asked, List.map_take]
  exact List.prefix_iff_eq_take.1 (es.puts_judge default w a).inOrder

end Evaluators

/-! ### Runs -/

namespace Engine

theorem config_of_build {config : EngineConfig} {exports : Bool} {e : Engine}
    (h : build config exports = .ok e) : e.config = config := by
  unfold build at h
  split at h
  · cases h
  · obtain rfl := Except.ok.inj h
    rfl

theorem Refreshed.config {e e' : Engine} (h : e.Refreshed e') : e'.config = e.config := by
  rcases h with rfl | ⟨-, set, -, rfl⟩ <;> rfl

end Engine

namespace System

variable {s t : System} {m : Move} {e : Effect} {ms : List Move}

theorem show_config (s : System) (es : Evaluators) (now : Nat) (a : Attestation) (w : Watcher) :
    (s.show_ es now a w).1.engine.config = s.engine.config := by
  show (Intake.visit es now a _ w).engine.config = s.engine.config
  rw [(visit_eq es now a _ w).1, Engine.meet_config]

/-- No move changes the settings of the engine. -/
theorem config_step (h : s.step? m = some (t, e)) : t.engine.config = s.engine.config := by
  have hstep := engine_step h
  generalize t.engine = e' at hstep ⊢
  cases hstep with
  | start outage hasRuntime =>
    obtain ⟨u, _, _, _, hu, he⟩ := s.start_reloads outage hasRuntime
    rw [he]
    rcases hu with rfl | rfl
    · rfl
    · exact (s.reload_reloaded outage).engine.config
  | stop => rfl
  | refresh _ hr => exact hr.config
  | visit => exact s.show_config ..
  | work => rfl

theorem config_run {s₀ : System} {config : EngineConfig} {exports : Bool}
    (hb : Engine.build config exports = .ok s₀.engine) (h : s₀.run? ms = some s) :
    s.engine.config = config :=
  run?_keeps (P := fun u => u.engine.config = config)
    (fun _ hmove hu => (config_step hmove).trans hu) (Engine.config_of_build hb) h

/-- The start of a watcher's time gate is none of its predicates. -/
theorem predicates_seeded (s : Store) (w : Watcher) :
    (ActiveSet.seeded s w).rule.predicates = w.rule.predicates := by
  unfold ActiveSet.seeded
  split
  · rfl
  · split <;> rfl

/-- The predicates of an active watcher are those of a watcher that was stored before. -/
theorem stored_run {s₀ : System} {config : EngineConfig} {exports : Bool}
    (hb : Engine.build config exports = .ok s₀.engine) (hs : s₀.store.Reachable)
    (h : s₀.run? ms = some s) {w : Watcher} (hw : w ∈ s.engine.active.watchers.values) :
    ∃ past u v, past <+: ms ∧ s₀.run? past = some u ∧ u.store.get? w.id = .ok (some v) ∧
      v.rule.predicates = w.rule.predicates := by
  induction ms using List.reverseRecOn generalizing s with
  | nil =>
    obtain rfl := Option.some.inj h
    rw [(Engine.build_eq_ok hb).2.1] at hw
    cases hw
  | append_singleton ms m ih =>
    obtain ⟨t, e, ht, hstep⟩ := run?_concat_eq_some.1 h
    rw [step_active hstep] at hw
    split at hw
    · have hsound : s.store.Sound := (run?_keeps (P := fun u => u.store.Reachable)
        (fun _ hmove => reachable_step hmove) hs h).sound
      obtain ⟨k, hk⟩ := Table.mem_values.1 hw
      obtain ⟨v, hlisted, -, rfl, rfl⟩ := (ActiveSet.get?_ofStore hsound).1 hk
      refine ⟨ms ++ [m], s, v, List.prefix_rfl, h, ?_, (predicates_seeded s.store v).symm⟩
      rw [ActiveSet.seeded_id, Store.get?, ((Store.mem_list hsound).1 hlisted).1]
    · obtain ⟨past, u, v, hpast, hrest⟩ := ih ht hw
      exact ⟨past, u, v, hpast.trans (List.prefix_append _ _), hrest⟩

/-! ### Attestations -/

/-- The predicates that are put to evaluators when an attestation comes in, as they are stored. -/
def asked (s : System) (es : Evaluators) (a : Attestation) : List Consultation :=
  if s.engine.isRunning then
    s.engine.active.watchers.values.flatMap fun w =>
      es.asked s.engine.config.defaultThreshold w a
  else []

theorem consulted_foldl (es : Evaluators) (now : Nat) (a : Attestation) (ws : List Watcher)
    (x : Intake) : (ws.foldl (Intake.visit es now a) x).consulted = x.consulted ++
      ws.flatMap fun w => (es.judge x.engine.config.defaultThreshold w a).consulted := by
  induction ws generalizing x with
  | nil => exact (List.append_nil _).symm
  | cons w ws ih =>
    have hconfig : (Intake.visit es now a x w).engine.config = x.engine.config := by
      rw [(visit_eq es now a x w).1, Engine.meet_config]
    have hfirst : (Intake.visit es now a x w).consulted =
        x.consulted ++ (es.judge x.engine.config.defaultThreshold w a).consulted := rfl
    rw [List.foldl_cons, ih, hconfig, hfirst, List.flatMap_cons, List.append_assoc]

/-- Every predicate is put to its evaluator with the threshold in effect. -/
theorem consulted_attest (s : System) (es : Evaluators) (now : Nat) (a : Attestation) :
    (s.attest es now a).2.2 = (s.asked es a).map
      (Consultation.withThreshold (Evaluators.effective s.engine.config.defaultThreshold)) := by
  unfold attest attestBy asked
  cases s.engine.isRunning with
  | false => rfl
  | true =>
    have hall := consulted_foldl es now a s.engine.active.watchers.values
      ⟨s.engine, { s.metrics with evaluated := s.metrics.evaluated + 1 }, 0, [], []⟩
    rw [List.nil_append] at hall
    rw [if_neg (by decide), if_pos rfl, List.map_flatMap]
    refine hall.trans ?_
    simp only [Evaluators.consulted_judge]

variable {s₀ : System} {config : EngineConfig} {exports : Bool}

theorem inRange_default (h : config.defect? = none) : config.defaultThreshold.inRange = true :=
  (EngineConfig.defect?_eq_none.1 h).2.2.2.1

/-- In every run of an engine whose settings are in order, whatever is stored: evaluators are asked
about predicates that were stored, and the thresholds that they are given are in range exactly if
none of these is stored above one. Then and only then each of them is the stored one if this is in
range, and the default if not. -/
theorem thresholds_in_range_iff (hb : Engine.build config exports = .ok s₀.engine)
    (hvalid : config.defect? = none) (hs : s₀.store.Reachable) (h : s₀.run? ms = some s)
    (es : Evaluators) (now : Nat) (a : Attestation) :
    (∀ c ∈ s.asked es a, ∃ past u id w, past <+: ms ∧ s₀.run? past = some u ∧
      u.store.get? id = .ok (some w) ∧ c ∈ w.rule.predicates) ∧
    (s.attest es now a).2.2 = (s.asked es a).map
      (Consultation.withThreshold (Evaluators.effective config.defaultThreshold)) ∧
    ((∀ c ∈ (s.attest es now a).2.2, c.InRange) ↔ ∀ c ∈ s.asked es a, c.Bounded) ∧
    ((s.attest es now a).2.2 = (s.asked es a).map
        (Consultation.withThreshold (Evaluators.fitting config.defaultThreshold)) ↔
      ∀ c ∈ s.asked es a, c.Bounded) := by
  have hdefault := inRange_default hvalid
  have hcalls : (s.attest es now a).2.2 = (s.asked es a).map
      (Consultation.withThreshold (Evaluators.effective config.defaultThreshold)) := by
    rw [consulted_attest, config_run hb h]
  refine ⟨fun c hc => ?_, hcalls, ?_, ?_⟩
  · unfold asked at hc
    split at hc
    · obtain ⟨w, hw, hc⟩ := List.mem_flatMap.1 hc
      obtain ⟨past, u, v, hpast, hu, hv, hsame⟩ := stored_run hb hs h hw
      exact ⟨past, u, w.id, v, hpast, hu, hv, hsame ▸ List.mem_of_mem_take hc⟩
    · cases hc
  · rw [hcalls, List.forall_mem_map]
    simp only [Consultation.inRange_withThreshold_iff hdefault]
  · rw [hcalls, List.map_inj_left]
    simp only [Consultation.withThreshold_fitting_iff hdefault]

end System

/-! A semantic watcher, stored with any threshold. -/

namespace Sample

/-- A new engine over an empty store. -/
def unused : System := ⟨.empty, (system .one).engine, .zero, []⟩

theorem build_unused : Engine.build .default false = .ok unused.engine := if_neg (by decide)

/-- The watcher is stored and the engine is started. -/
def storing (threshold : Single) : List Move :=
  [.change (.create (semantic "a" threshold)), .start .none true]

/-- An evaluator that finds everything similar. -/
def agreeing : Evaluators := ⟨none, some fun _ _ _ _ => .ok true⟩

/-- What the evaluator is asked once an attestation comes in. -/
def answered (threshold : Single) : Option (List Consultation) :=
  (unused.run? (storing threshold)).map fun s => (s.attest agreeing 0 (.bare "x" default)).2.2

end Sample

namespace System

/-- A stored threshold that is no number gives way to the default, as is fitting. -/
theorem sample_in_range : ∃ s, Sample.unused.run? (Sample.storing .notANumber) = some s ∧
    (s.attest Sample.agreeing 0 (.bare "x" default)).2.2 =
      [.similarity "a" EngineConfig.default.defaultThreshold none] ∧
    (s.attest Sample.agreeing 0 (.bare "x" default)).2.2 =
      (s.asked Sample.agreeing (.bare "x" default)).map (Consultation.withThreshold
        (Evaluators.fitting EngineConfig.default.defaultThreshold)) := by
  have hasked : Sample.answered .notANumber =
      some [.similarity "a" EngineConfig.default.defaultThreshold none] := by decide +kernel
  obtain ⟨s, hs, hcalls⟩ := Option.map_eq_some_iff.1 hasked
  refine ⟨s, hs, hcalls, ?_⟩
  obtain ⟨-, -, hrange, hfitting⟩ := thresholds_in_range_iff Sample.build_unused (by decide +kernel)
    ⟨[], rfl⟩ hs Sample.agreeing 0 (.bare "x" default)
  refine hfitting.2 (hrange.1 fun c hc x hx => ?_)
  obtain rfl := List.mem_singleton.1 (hcalls ▸ hc)
  obtain rfl := Option.some.inj hx
  decide +kernel

/-- What is stored above one is put to the evaluator as it is, so that not every threshold is in
range, even if the settings are. -/
theorem not_in_range : ¬ ∀ (config : EngineConfig) (exports : Bool) (s₀ s : System) (ms : List Move)
    (es : Evaluators) (now : Nat) (a : Attestation), Engine.build config exports = .ok s₀.engine →
    config.defect? = none → s₀.store.Reachable → s₀.run? ms = some s →
    ∀ c ∈ (s.attest es now a).2.2, c.InRange := by
  intro hall
  have hasked : Sample.answered ⟨0x3fc00000⟩ = some [.similarity "a" ⟨0x3fc00000⟩ none] := by
    decide +kernel
  obtain ⟨s, hs, hcalls⟩ := Option.map_eq_some_iff.1 hasked
  have hrange := hall .default false Sample.unused s _ _ 0 (.bare "x" default) Sample.build_unused
    (by decide +kernel) ⟨[], rfl⟩ hs _ (hcalls ▸ List.mem_singleton_self _)
  exact absurd (hrange _ rfl) (by decide +kernel)

end System

end Watchtower
