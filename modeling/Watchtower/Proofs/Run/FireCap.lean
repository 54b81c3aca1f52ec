import Mathlib.Tactic.Common
import Watchtower.Proofs.ActiveSet
import Watchtower.Proofs.Run.Schedule
import Watchtower.Proofs.Run.WindowLog

/-!
How often a watcher fires.

A run of a system with a clock consists of ticks: time passes, or there is a move. Attestations are
shown at the time on the clock, one active watcher after the other, and anything else may happen in
between; an attestation shown to all of them at once is such a run (`Clocked.runs_attest`). As long
as a watcher stays active, its log agrees with the rate limiter, and so the cap holds in each window
and twice the cap in each span of time (`Watched.fire_cap`).
-/

namespace Watchtower

/-! ### Moves and rate windows -/

namespace Engine

variable {e e' : Engine}

/-- The active set and the rate windows are left alone, or the active set is another one and the
rate windows of the watchers in it are left alone. -/
def KeepsBudget (e e' : Engine) : Prop :=
  (e'.active = e.active ∧ e'.limiter = e.limiter) ∨
    (e'.active.Keyed ∧ e'.limiter = e.limiter.retain e'.active.watchers.contains)

theorem KeepsBudget.refl (e : Engine) : KeepsBudget e e := .inl ⟨rfl, rfl⟩

theorem Refreshed.keepsBudget (h : Refreshed e e') : KeepsBudget e e' := by
  rcases h with rfl | ⟨a, set, hset, rfl⟩
  · exact .refl _
  · exact .inr ⟨ActiveSet.keyed_of_gather hset, rfl⟩

theorem KeepsBudget.span (h : KeepsBudget e e') : e'.limiter.span = e.limiter.span := by
  rcases h with ⟨-, h⟩ | ⟨-, h⟩
  · rw [h]
  · rw [h]
    rfl

/-- An active watcher keeps its window. -/
theorem KeepsBudget.get?_of_contains (h : KeepsBudget e e') {id : String}
    (hkeep : e'.active.watchers.contains id = true) :
    e'.limiter.windows.get? id = e.limiter.windows.get? id := by
  rcases h with ⟨-, h⟩ | ⟨-, h⟩
  · rw [h]
  · rw [h, RateLimiter.get?_retain, if_pos hkeep]

end Engine

namespace System

theorem start_keepsBudget (s : System) (outage : Outage) (hasRuntime : Bool) :
    s.engine.KeepsBudget (s.start outage hasRuntime).1.engine := by
  obtain ⟨t, _, _, _, rfl | rfl, h⟩ := s.start_reloads outage hasRuntime
  · rw [h]
    exact .refl _
  · rw [h]
    exact (s.reload_reloaded outage).engine.keepsBudget

/-- Only a visit has to do with the rate windows of active watchers, and only a visit queues
messages. -/
theorem step_keepsBudget {s t : System} {m : Move} {e : Effect} (h : s.step? m = some (t, e))
    (hm : m.isVisit = false) : s.engine.KeepsBudget t.engine ∧ ∀ id, e.queues id = false := by
  have hstep := engine_step h
  generalize t.engine = e' at hstep ⊢
  cases hstep with
  | start outage hasRuntime =>
    refine ⟨s.start_keepsBudget outage hasRuntime, fun id => ?_⟩
    unfold effectOfStart
    split <;> rfl
  | stop => exact ⟨.inl ⟨rfl, rfl⟩, fun _ => rfl⟩
  | refresh _ hr => exact ⟨hr.keepsBudget, fun _ => rfl⟩
  | visit => cases hm
  | work _ _ _ hqueues => exact ⟨.inl ⟨rfl, rfl⟩, hqueues⟩

end System

/-! ### Runs with a clock -/

/-- A system and the clock of its rate windows. -/
structure Clocked where
  system : System
  clock : Nat

/-- The smallest things that happen while a clock runs. -/
inductive Tick where
  | advance (ms : Nat)
  | move (m : Move)

namespace Clocked

def limiter (x : Clocked) : RateLimiter := x.system.engine.limiter

def active? (x : Clocked) (id : String) : Option Watcher := x.system.engine.active.watchers.get? id

/-- Attestations are shown to watchers that are active, at the time on the clock. -/
def allows (x : Clocked) : Move → Bool
  | .visit _ now _ w => now == x.clock && x.active? w.id == some w
  | _ => true

/-- A tick, if it is in place, and what it means to the messages on their way. -/
def step? (x : Clocked) : Tick → Option (Clocked × Effect)
  | .advance ms => some ({ x with clock := x.clock + ms }, .none)
  | .move m => if x.allows m then (x.system.step? m).map fun (s, e) => (⟨s, x.clock⟩, e) else none

/-- Ticks one after the other, if all of them are in place. -/
def run? (x : Clocked) (ts : List Tick) : Option Clocked :=
  ts.foldlM (fun x t => (x.step? t).map Prod.fst) x

/-- The tick is a match of the watcher that gets as far as its rate window. -/
def tries (x : Clocked) (id : String) : Tick → Bool
  | .move (.visit es _ a w) =>
    (es.judge x.system.engine.config.defaultThreshold w a).matched && w.id == id
      && w.rule.maxFires != 0
  | _ => false

/-- What an observer of a watcher adds to the log of its rate windows. -/
def noted (x : Clocked) (id : String) (t : Tick) (e : Effect) (gs : List WindowLog) :
    List WindowLog :=
  let gs := if x.tries id t then WindowLog.touch x.limiter id x.clock gs else gs
  if e.queues id then WindowLog.record x.clock gs else gs

variable {x y : Clocked} {t : Tick} {e : Effect} {id : String} {k span : Nat}

/-- What a tick comes to: the rate windows of the active watchers are left alone, or an active watcher
has a match. -/
inductive Outcome (x : Clocked) (t : Tick) : Clocked → Effect → Prop where
  | quiet {y : Clocked} {e : Effect} (hbudget : x.system.engine.KeepsBudget y.system.engine)
      (hclock : x.clock ≤ y.clock) (htries : ∀ id, x.tries id t = false)
      (hqueues : ∀ id, e.queues id = false) : Outcome x t y e
  | matched {y : Clocked} {e : Effect} {w : Watcher} {fate : Engine.Fate}
      (hactive : x.active? w.id = some w)
      (hfire : Engine.FireOutcome x.limiter x.clock w y.limiter fate)
      (hset : y.system.engine.active = x.system.engine.active) (hclock : y.clock = x.clock)
      (htries : ∀ id, x.tries id t = (w.id == id && w.rule.maxFires != 0))
      (hqueues : ∀ id, e.queues id = (w.id == id && fate == .queued)) : Outcome x t y e

theorem visit_outcome (es : Evaluators) (a : Attestation) {w : Watcher}
    (hactive : x.active? w.id = some w) :
    x.Outcome (.move (.visit es x.clock a w)) ⟨(x.system.show_ es x.clock a w).1, x.clock⟩
      (x.system.show_ es x.clock a w).2 := by
  cases hm : (es.judge x.system.engine.config.defaultThreshold w a).matched with
  | false =>
    have hshow : (x.system.show_ es x.clock a w).1.engine = x.system.engine ∧
        (x.system.show_ es x.clock a w).2 = .none := by
      simp [System.show_, System.Intake.visit, hm]
    refine .quiet (.inl (by rw [hshow.1]; exact ⟨rfl, rfl⟩)) (Nat.le_refl _) (fun id => ?_)
      (fun id => ?_)
    · simp [tries, hm]
    · rw [hshow.2]
      rfl
  | true =>
    have hshow : (x.system.show_ es x.clock a w).1.engine =
          (x.system.engine.fire x.clock w a).1 ∧
        (x.system.show_ es x.clock a w).2 =
          if (x.system.engine.fire x.clock w a).2 = .queued then .accepted ⟨w, a⟩ else .none := by
      simp only [System.show_, System.Intake.visit, hm, if_true, true_and]
      split <;> simp
    have hfire : Engine.FireOutcome x.limiter x.clock w
        (x.system.show_ es x.clock a w).1.engine.limiter (x.system.engine.fire x.clock w a).2 := by
      rw [hshow.1]
      exact x.system.engine.fire_outcome x.clock w a
    refine .matched hactive hfire ?_ rfl (fun id => ?_) (fun id => ?_)
    · rw [hshow.1]
      exact x.system.engine.fire_active x.clock w a
    · simp [tries, hm]
    · rw [hshow.2]
      split
      · next h => simp [Effect.queues, h]
      · next h => simp [Effect.queues, h]

theorem step_outcome (h : x.step? t = some (y, e)) : x.Outcome t y e := by
  cases t with
  | advance ms =>
    obtain ⟨rfl, rfl⟩ := Prod.mk.inj (Option.some.inj h)
    exact .quiet (.inl ⟨rfl, rfl⟩) (Nat.le_add_right ..) (fun _ => rfl) fun _ => rfl
  | move m =>
    simp only [step?] at h
    split at h
    · next hallows =>
      obtain ⟨⟨s, e'⟩, hstep, he⟩ := Option.map_eq_some_iff.1 h
      obtain ⟨rfl, rfl⟩ := Prod.mk.inj he
      have hother (hm : m.isVisit = false) (htries : ∀ id, x.tries id (.move m) = false) :
          x.Outcome (.move m) ⟨s, x.clock⟩ e' := by
        obtain ⟨hbudget, hqueues⟩ := System.step_keepsBudget hstep hm
        exact .quiet hbudget (Nat.le_refl _) htries hqueues
      cases m with
      | visit es now a w =>
        obtain ⟨hnow, hactive⟩ : now = x.clock ∧ x.active? w.id = some w := by
          simpa [allows] using hallows
        subst hnow
        have hshow := visit_outcome es a hactive
        cases System.step_of_step? hstep with
        | visit => exact hshow
      | _ => exact hother rfl fun _ => rfl
    · cases h

/-! ### What ticks keep -/

/-- The rate windows have the span given, and only active watchers have any. -/
structure Sound (span : Nat) (x : Clocked) : Prop where
  span : x.limiter.span = span
  owned : ∀ id, x.limiter.windows.get? id ≠ none → x.active? id ≠ none
  keyed : x.system.engine.active.Keyed

theorem sound_build {config : EngineConfig} {exports : Bool} {s : System} (clock : Nat)
    (hb : Engine.build config exports = .ok s.engine) :
    Sound (config.windowSeconds * 1000) ⟨s, clock⟩ := by
  obtain ⟨-, hactive, hlimiter⟩ := Engine.build_eq_ok hb
  refine ⟨?_, fun id h => ?_, ?_⟩
  · rw [limiter, hlimiter]
  · rw [limiter, hlimiter] at h
    exact absurd rfl h
  · rw [hactive]
    exact nofun

theorem Outcome.sound (ho : x.Outcome t y e) (h : Sound span x) : Sound span y := by
  cases ho with
  | quiet hbudget =>
    have hspan : y.limiter.span = span := hbudget.span.trans h.span
    rcases hbudget with ⟨hset, hlimiter⟩ | ⟨hkeyed, hlimiter⟩
    · refine ⟨hspan, fun id => ?_, by rw [hset]; exact h.keyed⟩
      rw [limiter, active?, hlimiter, hset]
      exact h.owned id
    · refine ⟨hspan, fun id hw hnone => ?_, hkeyed⟩
      have hgone : y.system.engine.active.watchers.contains id = false := by
        rw [Table.contains, ← active?, hnone]
        rfl
      rw [limiter, hlimiter, RateLimiter.get?_retain, hgone] at hw
      exact hw rfl
  | @matched w fate hactive hfire hset =>
    refine ⟨hfire.span.trans h.span, fun id hw => ?_, by rw [hset]; exact h.keyed⟩
    rw [active?, hset]
    by_cases hid : w.id = id
    · rw [← hid]
      exact fun hnone => Option.some_ne_none w (hactive.symm.trans hnone)
    · rw [hfire.get?_of_ne hid] at hw
      exact h.owned id hw

/-- While the watcher is active with no more than the cap, its log keeps agreeing with the limiter. -/
theorem Outcome.agrees {gs : List WindowLog} (ho : x.Outcome t y e)
    (h : WindowLog.Agrees k x.clock x.limiter id gs)
    (hcap : ∀ w, x.active? id = some w → w.rule.maxFires ≤ k) (hstays : y.active? id ≠ none) :
    WindowLog.Agrees k y.clock y.limiter id (x.noted id t e gs) := by
  unfold noted
  cases ho with
  | quiet hbudget hclock htries hqueues =>
    simp only [htries, hqueues, Bool.false_eq_true, if_false]
    have hkeep : y.system.engine.active.watchers.contains id = true :=
      Option.isSome_iff_ne_none.2 hstays
    exact h.of_same hbudget.span (hbudget.get?_of_contains hkeep) hclock
  | @matched w fate hactive hfire hset hclock htries hqueues =>
    rw [htries, hqueues, hclock]
    by_cases hid : w.id = id
    · subst hid
      have hk : w.rule.maxFires ≤ k := hcap w hactive
      generalize y.limiter = l' at hfire
      cases hfire with
      | zeroCap hzero => simpa [hzero] using h
      | dropped hcap hfate =>
        have hfate : (fate == .queued) = false := by rcases hfate with rfl | rfl | rfl <;> rfl
        simpa [hcap, hfate] using h.drop
      | queued hcap hroom => simpa [hcap] using h.queue (hroom.trans_le hk)
    · have hid' : (w.id == id) = false := beq_false_of_ne hid
      simp only [hid', Bool.false_and, Bool.false_eq_true, if_false]
      exact h.of_same hfire.span (hfire.get?_of_ne hid) (Nat.le_refl _)

theorem sound_run {ts : List Tick} (h : Sound span x) (hrun : x.run? ts = some y) : Sound span y := by
  refine foldlM_keeps (fun _ hz h => ?_) h hrun
  obtain ⟨⟨z, e⟩, hstep, rfl⟩ := Option.map_eq_some_iff.1 hz
  exact (step_outcome hstep).sound h

/-! ### Attestations -/

/-- Visits do not touch the active set. -/
theorem active_visit (es : Evaluators) (now : Nat) (a : Attestation) (z : System.Intake)
    (w : Watcher) : (System.Intake.visit es now a z w).engine.active = z.engine.active := by
  unfold System.Intake.visit
  dsimp only
  split
  · exact z.engine.fire_active now w a
  · rfl

/-- Some ticks, one after the other, lead from one to the other. -/
def Runs (x y : Clocked) : Prop := ∃ ts, x.run? ts = some y

theorem Runs.move {m : Move} {s : System} (hallows : x.allows m = true)
    (hstep : x.system.step? m = some (s, e)) (h : Runs ⟨s, x.clock⟩ y) : Runs x y := by
  obtain ⟨ts, hts⟩ := h
  refine ⟨.move m :: ts, ?_⟩
  rw [run?, List.foldlM_cons, step?, if_pos hallows, hstep]
  exact hts

theorem runs_visits (s : System) (es : Evaluators) (now : Nat) (a : Attestation)
    (ws : List Watcher) {z : System.Intake} (hd : z.engine.dispatching = true)
    (hactive : ∀ w ∈ ws, z.engine.active.watchers.get? w.id = some w) :
    Runs ⟨s.after z, now⟩ ⟨s.after (ws.foldl (System.Intake.visit es now a) z), now⟩ := by
  induction ws generalizing z with
  | nil => exact ⟨[], rfl⟩
  | cons w ws ih =>
    obtain ⟨hw, hws⟩ := List.forall_mem_cons.1 hactive
    have hallows : allows ⟨s.after z, now⟩ (.visit es now a w) = true := by
      simpa [allows, active?, System.after] using hw
    have hvisit : (s.after z).step? (.visit es now a w) =
        some (s.after (System.Intake.visit es now a z w), ((s.after z).show_ es now a w).2) := by
      rw [← System.after_visit]
      exact if_pos hd
    refine Runs.move hallows hvisit (ih ?_ ?_)
    · exact (System.dispatching_visit es now a z w).trans hd
    · rwa [active_visit]

/-- Showing an attestation to all active watchers is a run. -/
theorem runs_attest (h : Sound span x) (es : Evaluators) (a : Attestation) :
    Runs x ⟨(x.system.attest es x.clock a).1, x.clock⟩ := by
  obtain ⟨s, now⟩ := x
  cases hr : s.engine.isRunning with
  | false =>
    refine Runs.move (m := .arrive a) (e := .none) (s := s.note [.ignoredAttestation a.id]) rfl ?_ ?_
    · simp [System.step?, hr]
    · refine ⟨[], ?_⟩
      simp [run?, System.attest, System.attestBy, hr]
  | true =>
    refine Runs.move (m := .arrive a) (e := .none)
      (s := { s with metrics := { s.metrics with evaluated := s.metrics.evaluated + 1 } }) rfl ?_ ?_
    · simp [System.step?, hr]
    have hd : s.engine.dispatching = true := (Bool.and_eq_true_iff.1 hr).1
    have hactive : ∀ w ∈ s.engine.active.watchers.values,
        s.engine.active.watchers.get? w.id = some w := by
      intro w hw
      obtain ⟨k, hk⟩ := Table.mem_values.1 hw
      rwa [h.keyed hk]
    have hruns := runs_visits s es now a s.engine.active.watchers.values
      (z := ⟨s.engine, { s.metrics with evaluated := s.metrics.evaluated + 1 }, 0, [], []⟩) hd hactive
    simpa [System.after, System.attest, System.attestBy, System.intake, hr] using hruns

end Clocked

/-! ### A watcher under observation -/

/-- A system and the log of one watcher's rate windows. -/
structure Watched where
  state : Clocked
  log : List WindowLog

namespace Watched

/-- A tick under observation. -/
def step? (id : String) (x : Watched) (t : Tick) : Option Watched :=
  (x.state.step? t).map fun (y, e) => ⟨y, x.state.noted id t e x.log⟩

/-- The watcher is active with a cap of at most so many. -/
def hasCap (id : String) (k : Nat) (x : Watched) : Bool :=
  (x.state.active? id).any fun w => w.rule.maxFires ≤ k

/-- Ticks one after the other, if all of them are in place and the watcher is active with a cap of at
most so many after each of them. -/
def stay? (id : String) (k : Nat) (x : Watched) (ts : List Tick) : Option Watched :=
  ts.foldlM (fun x t => (x.step? id t).filter (hasCap id k)) x

/-- The fire cap holds. -/
structure Capped (id : String) (k span : Nat) (x : Watched) : Prop where
  /-- No window has more messages than the cap. -/
  perWindow : ∀ g ∈ x.log, g.queuedAt.length ≤ k
  /-- No span of time has more messages than twice the cap. -/
  perSpan : ∀ t, (WindowLog.queued x.log).countP (fun q => t ≤ q && q < t + span) ≤ 2 * k
  /-- The limiter counts the messages queued since the window was started. -/
  counts : x.state.limiter.windows.get? id = x.log.head?.map WindowLog.window
  bounded : ∀ w, x.state.limiter.windows.get? id = some w → w.fires ≤ k
  /-- A fire that is granted is counted for the time being, and then there is one to hand back. -/
  granted : ∀ cap ≤ k, (x.state.limiter.acquire id cap x.state.clock).2 = true →
    ∃ w, (x.state.limiter.acquire id cap x.state.clock).1.windows.get? id = some w ∧
      0 < w.fires ∧ w.fires ≤ k
  /-- A match whose message is not queued takes nothing from the window. -/
  dropped : ∀ w a, w.id = id → (x.state.system.engine.fire x.state.clock w a).2 ≠ .queued →
    (x.state.system.engine.fire x.state.clock w a).1.limiter.windowAt id x.state.clock =
      x.state.limiter.windowAt id x.state.clock
  /-- A reload that keeps the watcher leaves its window alone, and so does everything else but an
  attestation. -/
  kept : ∀ m s e, x.state.system.step? m = some (s, e) → m.isVisit = false →
    s.engine.active.watchers.contains id = true →
      s.engine.limiter.windows.get? id = x.state.limiter.windows.get? id

variable {id : String} {k span : Nat} {x y : Watched}

/-- What holds while the watcher stays active. -/
structure Staying (id : String) (k span : Nat) (x : Watched) : Prop where
  sound : x.state.Sound span
  agrees : WindowLog.Agrees k x.state.clock x.state.limiter id x.log
  cap : ∀ w, x.state.active? id = some w → w.rule.maxFires ≤ k

theorem staying_of_absent {x : Clocked} (h : x.Sound span) (habsent : x.active? id = none) :
    Staying id k span ⟨x, []⟩ where
  sound := h
  agrees := .nil (by_contra fun hw => h.owned id hw habsent)
  cap _ hw := nomatch habsent.symm.trans hw

theorem Staying.step {t : Tick} (h : Staying id k span x) (hstep : x.step? id t = some y)
    (hcap : hasCap id k y = true) : Staying id k span y := by
  obtain ⟨⟨z, e⟩, hz, rfl⟩ := Option.map_eq_some_iff.1 hstep
  have ho := Clocked.step_outcome hz
  obtain ⟨v, hv, hk⟩ := (Option.any_eq_true _ _).1 hcap
  refine ⟨ho.sound h.sound, ho.agrees h.agrees h.cap ?_, fun w hw => ?_⟩
  · exact fun hnone => nomatch hv.symm.trans hnone
  · obtain rfl := Option.some.inj (hv.symm.trans hw)
    exact of_decide_eq_true hk

theorem staying_stay {ts : List Tick} (h : Staying id k span x) (hrun : x.stay? id k ts = some y) :
    Staying id k span y := by
  refine foldlM_keeps (fun _ hz h => ?_) h hrun
  obtain ⟨hstep, hcap⟩ := Option.filter_eq_some_iff.1 hz
  exact h.step hstep hcap

theorem Staying.capped (h : Staying id k span x) : Capped id k span x where
  perWindow := h.agrees.lawful.capped
  perSpan t := by
    have hspan := h.agrees.lawful.countP_queued_le t
    rwa [h.sound.span] at hspan
  counts := h.agrees.window
  bounded w hw := h.agrees.fires_le hw
  granted cap hcap hgranted := by
    obtain ⟨w, hw, hpos, hle⟩ := RateLimiter.fires_of_granted hgranted
    exact ⟨w, hw, hpos, hle.trans hcap⟩
  dropped w a hid hfate := by
    subst hid
    exact (x.state.system.engine.fire_outcome x.state.clock w a).windowAt_of_not_queued hfate
  kept m s e hstep hm hkeep := (System.step_keepsBudget hstep hm).1.get?_of_contains hkeep

/-- In every run of a new engine only active watchers have rate windows, and for every watcher the
fire cap holds from the moment it becomes active for as long as it stays so. -/
theorem fire_cap {config : EngineConfig} {exports : Bool} {s : System} (clock : Nat)
    (hb : Engine.build config exports = .ok s.engine) (before : List Tick) {x : Clocked}
    (hx : Clocked.run? ⟨s, clock⟩ before = some x) :
    (∀ id, x.limiter.windows.get? id ≠ none → x.active? id ≠ none) ∧
      ∀ id k, x.active? id = none → ∀ ts y, stay? id k ⟨x, []⟩ ts = some y →
        Capped id k (config.windowSeconds * 1000) y := by
  have hsound := Clocked.sound_run (Clocked.sound_build clock hb) hx
  refine ⟨hsound.owned, fun id k habsent ts y hrun => ?_⟩
  exact (staying_stay (staying_of_absent hsound habsent) hrun).capped

end Watched

/-! Two messages are queued in the first window, and then none is left. In the second one, the queue
is full at first. -/

namespace Sample

/-- A watcher that matches everything and may fire twice in a window. -/
def capped : Watcher := { hook with rule := { hook.rule with maxFires := 2 } }

def stored : System := { idle with store := Store.empty.apply (.create capped) }

def shown (now : Nat) (attestation : String) : Tick :=
  .move (.visit ⟨none, none⟩ now (.bare attestation default) capped)

def ticks : List Tick :=
  [.move (.start .none true), shown 0 "a", shown 0 "b", shown 0 "c", .advance 60000,
    shown 60000 "d", .move .wake, .move .proceed, .move (.reload .none), shown 60000 "e"]

end Sample

namespace Watched

theorem sample_capped : ∃ y, stay? "w" 2 ⟨⟨Sample.stored, 0⟩, []⟩ Sample.ticks = some y ∧
    y.log = [⟨60000, [60000]⟩, ⟨0, [0, 0]⟩] ∧ Capped "w" 2 60000 y := by
  have hlog : (stay? "w" 2 ⟨⟨Sample.stored, 0⟩, []⟩ Sample.ticks).map Watched.log =
      some [⟨60000, [60000]⟩, ⟨0, [0, 0]⟩] := by decide +kernel
  obtain ⟨y, hy, hlog⟩ := Option.map_eq_some_iff.1 hlog
  have hcap := fire_cap 0 (s := Sample.stored) Sample.build_engine [] rfl
  exact ⟨y, hy, hlog, hcap.2 "w" 2 rfl Sample.ticks y hy⟩

end Watched

end Watchtower
