import Mathlib.Tactic.Common
import Watchtower.Proofs.Compilation.CleanUp
import Watchtower.Proofs.Run

/-!
The traffic of messages through an engine.

Whatever a move does to a system, it does one of a few things to the engine (`System.engine_step`),
and so to the queue, the dispatcher and the flights (`System.traffic_step`). What holds of messages in
every run is proved from these alone.
-/

namespace Watchtower

/-- The part of an engine that messages pass through. -/
structure Traffic where
  dispatch : Dispatch
  dispatching : Bool
  stopped : Bool

namespace Engine

def traffic (e : Engine) : Traffic := ⟨e.dispatch, e.dispatching, e.stopped⟩

/-- A new engine has an empty queue, no active watchers and no rate windows. -/
theorem build_eq_ok {config : EngineConfig} {exports : Bool} {e : Engine}
    (h : build config exports = .ok e) :
    e.traffic = ⟨.idle config.queueSize config.maxInFlight, false, false⟩ ∧
      e.active = .empty ∧ e.limiter = ⟨config.windowSeconds * 1000, .empty⟩ := by
  unfold build at h
  split at h
  · cases h
  · obtain rfl := Except.ok.inj h
    exact ⟨rfl, rfl, rfl⟩

end Engine

namespace Traffic

/-- What a move can do to the traffic. -/
inductive Step : Traffic → Effect → Traffic → Prop where
  | quiet (x : Traffic) : Step x .none x
  | start {d : Dispatch} {b : Bool} (h : d.receiver = .parked) :
      Step ⟨d, b, false⟩ .none ⟨{ d with receiver := .waking }, true, false⟩
  | startFailed {d : Dispatch} {b : Bool} (h : d.receiver = .parked) :
      Step ⟨d, b, false⟩ .discarded ⟨d.close, b, false⟩
  | stop {d : Dispatch} {b s : Bool} : Step ⟨d, b, s⟩ .none ⟨d, b, true⟩
  | accept {d : Dispatch} {s : Bool} (m : Message) (h : d.receiver ≠ .gone)
      (hroom : d.queue.length < d.capacity) :
      Step ⟨d, true, s⟩ (.accepted m) ⟨{ d with queue := d.queue ++ [m] }, true, s⟩
  | wake {d : Dispatch} {b s : Bool} (h : d.receiver = .waking) :
      Step ⟨d, b, s⟩ .none ⟨{ d with receiver := .waiting }, b, s⟩
  | take {d : Dispatch} {b : Bool} {m : Message} {rest : List Message} (h : d.receiver = .waiting)
      (hq : d.queue = m :: rest) :
      Step ⟨d, b, false⟩ .taken ⟨{ d with queue := rest, receiver := .holding m }, b, false⟩
  | drop {d : Dispatch} {b : Bool} (h : d.receiver = .waiting) :
      Step ⟨d, b, true⟩ .discarded ⟨d.close, b, true⟩
  | launch {d : Dispatch} {b s : Bool} {m : Message} (h : d.receiver = .holding m)
      (hpermit : d.flights.length < d.limit) : Step ⟨d, b, s⟩ .launched ⟨d.launch m, b, s⟩
  | invoke {d : Dispatch} {b s : Bool} {m : Message} {index : Nat} (gate : Nat)
      (h : d.flights[index]? = some ⟨m, none⟩) :
      Step ⟨d, b, s⟩ (.invoked index) ⟨d.invoke index gate, b, s⟩
  | finish {d : Dispatch} {b s : Bool} {f : Flight} {index : Nat} {outcome : Except Fault Unit}
      {attempts : List Book} (h : d.flights[index]? = some f)
      (hinvoked : f.gate = none → outcome = .error (.dispatch .noInvoker))
      (hfire : attempts.countP Book.isFire = if outcome.isOk then 1 else 0)
      (herror : attempts.countP Book.isError = if outcome.isOk then 0 else 1) :
      Step ⟨d, b, s⟩ (.finished index outcome attempts) ⟨d.land index, b, s⟩

/-- Neither size ever changes. -/
theorem Step.sizes {x y : Traffic} {e : Effect} (h : Step x e y) :
    y.dispatch.capacity = x.dispatch.capacity ∧ y.dispatch.limit = x.dispatch.limit := by
  cases h <;> exact ⟨rfl, rfl⟩

/-- There is no way back from a stop. -/
theorem Step.stopped {x y : Traffic} {e : Effect} (h : Step x e y) (hs : x.stopped = true) :
    y.stopped = true := by
  cases h <;> first | exact hs | rfl

end Traffic

namespace System

/-! ### What operations leave alone -/

theorem compile_refreshed (s : System) (outage : Outage) (resolver : Resolver)
    (config : CompilerConfig) (now : Moment) (c : Composition) :
    s.engine.Refreshed (s.compile outage resolver config now c).1.engine := by
  unfold compile
  split
  · exact .inl rfl
  dsimp only
  split
  · exact .inl rfl
  split
  · exact .inl rfl
  · rw [note_engine]
    exact (reloadIfChanged_reloaded ..).engine

theorem cleanUp_refreshed (s : System) (outage : Outage) (composition : String) :
    s.engine.Refreshed (s.cleanUp outage composition).1.engine := by
  have h := (((s.removeWatchers outage composition).1.removeCursors outage
    composition).1.reloadAfterCleanUp_reloaded outage).engine
  rw [removeCursors_engine, removeWatchers_engine] at h
  exact h

end System

theorem Engine.Refreshed.traffic {e e' : Engine} (h : e.Refreshed e') : e'.traffic = e.traffic := by
  rcases h with rfl | ⟨-, set, -, rfl⟩ <;> rfl

namespace System

/-- What a start in a runtime comes to. -/
inductive StartOutcome (s : System) (outage : Outage) : System → Except Fault Unit → Prop where
  | stopped (h : s.engine.stopped = true) :
      StartOutcome s outage (s.note [.stoppedBeforeStart]) (.ok ())
  | again (hs : s.engine.stopped = false) (h : s.engine.dispatch.receiver ≠ .parked) :
      StartOutcome s outage (s.note [.alreadyStarted]) (.ok ())
  | failed {t : System} {f : Fault} (hs : s.engine.stopped = false)
      (h : s.engine.dispatch.receiver = .parked)
      (ht : t.engine.traffic = ⟨s.engine.dispatch.close, s.engine.dispatching, false⟩)
      (why : (∃ f, (s.reload outage).2 = .error f) ∨
        Engine.greatestPermits < s.engine.dispatch.limit) : StartOutcome s outage t (.error f)
  | started {t : System} (hs : s.engine.stopped = false) (h : s.engine.dispatch.receiver = .parked)
      (ht : t.engine.traffic = ⟨{ s.engine.dispatch with receiver := .waking }, true, false⟩) :
      StartOutcome s outage t (.ok ())

theorem start_outcome (s : System) (outage : Outage) :
    StartOutcome s outage (s.start outage true).1 (s.start outage true).2 := by
  -- the reload leaves the queue and the flags to the start
  have hreload : ∀ {t r}, s.reload outage = (t, r) → t.engine.traffic = s.engine.traffic :=
    fun he => (congrArg (fun x => x.1.engine.traffic) he).symm.trans (s.reload_reloaded outage).engine.traffic
  unfold start
  rw [if_neg (by decide)]
  split
  · next h => exact .stopped h
  next hstopped =>
  have hstopped : s.engine.stopped = false := by simpa using hstopped
  split
  · next hparked =>
    split
    · next t f he =>
      obtain ⟨hd, hb, hs⟩ := Traffic.mk.inj (hreload he)
      exact .failed hstopped hparked (by simp only [Engine.traffic, hd, hb, hs, hstopped])
        (.inl ⟨f, by rw [he]⟩)
    · next t he =>
      obtain ⟨hd, hb, hs⟩ := Traffic.mk.inj (hreload he)
      split
      · next hlimit =>
        exact .failed hstopped hparked (by simp only [Engine.traffic, hd, hb, hs, hstopped])
          (.inr (hd ▸ hlimit))
      · exact .started hstopped hparked (by simp only [Engine.traffic, hd, hs, hstopped])
  · next hparked => exact .again hstopped hparked

/-- Without a runtime a start does nothing. -/
theorem start_of_noRuntime (s : System) (outage : Outage) : (s.start outage false).1 = s := by
  unfold start
  rw [if_pos (by decide)]

/-- A start changes nothing, or takes the parked receiving end and starts the dispatcher with it, or
fails and drops it. -/
theorem start_traffic (s : System) (outage : Outage) (hasRuntime : Bool) :
    (s.start outage hasRuntime).1.engine.traffic = s.engine.traffic ∨
    s.engine.dispatch.receiver = .parked ∧ s.engine.stopped = false ∧
      ((s.start outage hasRuntime).1.engine.traffic =
          ⟨{ s.engine.dispatch with receiver := .waking }, true, false⟩ ∨
        (s.start outage hasRuntime).1.engine.traffic =
          ⟨s.engine.dispatch.close, s.engine.dispatching, false⟩) := by
  cases hasRuntime with
  | false => exact .inl (by rw [start_of_noRuntime])
  | true =>
    have h := s.start_outcome outage
    generalize (s.start outage true).1 = t, (s.start outage true).2 = r at h ⊢
    cases h with
    | stopped | again => exact .inl rfl
    | failed hs hp ht => exact .inr ⟨hp, hs, .inr ht⟩
    | started hs hp ht => exact .inr ⟨hp, hs, .inl ht⟩

end System

/-! ### Every move is a step -/

/-- Invoking an action leaves the messages in flight as they are. -/
theorem Dispatch.messages_invoke (d : Dispatch) (index gate : Nat) :
    (d.invoke index gate).flights.map (·.message) = d.flights.map (·.message) := by
  refine List.ext_getElem? fun i => ?_
  rw [invoke, List.getElem?_map, List.getElem?_map, List.getElem?_modify]
  cases d.flights[i]? with
  | none => rfl
  | some f => by_cases hj : index = i <;> simp [hj]

theorem Dispatch.isOpen_iff {d : Dispatch} : d.isOpen = true ↔ d.receiver ≠ .gone := by
  unfold isOpen
  split
  · next h => simp [h]
  · next h => simpa using h

theorem Dispatch.offer_taken {d : Dispatch} {m : Message} (h : (d.offer m).2 = .taken) :
    d.receiver ≠ .gone ∧ d.queue.length < d.capacity ∧
      (d.offer m).1 = { d with queue := d.queue ++ [m] } := by
  unfold offer at h ⊢
  split at h
  · cases h
  next hopen =>
  have hopen : d.isOpen = true := by simpa using hopen
  split at h
  · next hroom => exact ⟨isOpen_iff.1 hopen, hroom, by simp [hopen, hroom]⟩
  · cases h

namespace Engine

/-- A match that is queued joins the end of the queue, and any other leaves the traffic alone. -/
theorem fire_traffic (e : Engine) (now : Nat) (w : Watcher) (a : Attestation) :
    ((e.fire now w a).2 ≠ .queued ∧ (e.fire now w a).1.traffic = e.traffic) ∨
    ((e.fire now w a).2 = .queued ∧ e.dispatch.receiver ≠ .gone ∧
      e.dispatch.queue.length < e.dispatch.capacity ∧
      (e.fire now w a).1.traffic =
        ⟨{ e.dispatch with queue := e.dispatch.queue ++ [⟨w, a⟩] }, e.dispatching, e.stopped⟩) := by
  unfold fire
  dsimp only
  split
  · exact .inl ⟨by simp, rfl⟩
  split
  · exact .inl ⟨by simp, rfl⟩
  split
  · next htaken =>
    obtain ⟨hopen, hroom, hd⟩ := Dispatch.offer_taken htaken
    refine .inr ⟨rfl, hopen, hroom, ?_⟩
    rw [traffic, hd]
  · exact .inl ⟨by simp, rfl⟩
  · exact .inl ⟨by simp, rfl⟩

/-- A match does not touch the receiving end of the queue. -/
theorem fire_receiver (e : Engine) (now : Nat) (w : Watcher) (a : Attestation) :
    (e.fire now w a).1.dispatch.receiver = e.dispatch.receiver := by
  rcases e.fire_traffic now w a with ⟨-, ht⟩ | ⟨-, -, -, ht⟩
  · exact congrArg (·.dispatch.receiver) ht
  · exact congrArg (·.dispatch.receiver) ht

end Engine

/-- The moves of the dispatcher. -/
theorem Dispatch.move_step {d d' : Dispatch} {b stopped : Bool} {said : List Event}
    (h : d.move? stopped = some (d', said)) :
    Traffic.Step ⟨d, b, stopped⟩ (System.effectOf d stopped) ⟨d', b, stopped⟩ := by
  unfold move? at h
  unfold System.effectOf
  split at h
  · next hr =>
    rw [hr]
    dsimp only
    split at h
    · next hs =>
      obtain ⟨rfl, -⟩ := Prod.mk.inj (Option.some.inj h)
      subst hs
      exact .drop hr
    · next hs =>
      rw [if_neg hs]
      split at h
      · cases h
      · next m rest hq =>
        obtain ⟨rfl, -⟩ := Prod.mk.inj (Option.some.inj h)
        obtain rfl := Bool.eq_false_iff.2 hs
        exact .take hr hq
  · next m hr =>
    rw [hr]
    split at h
    · next hp =>
      obtain ⟨rfl, -⟩ := Prod.mk.inj (Option.some.inj h)
      exact .launch hr hp
    · cases h
  · cases h

namespace System

theorem show_traffic (s : System) (es : Evaluators) (now : Nat) (a : Attestation) (w : Watcher)
    (h : s.engine.dispatching = true) :
    Traffic.Step s.engine.traffic (s.show_ es now a w).2 (s.show_ es now a w).1.engine.traffic := by
  have htraffic : s.engine.traffic = ⟨s.engine.dispatch, true, s.engine.stopped⟩ := by
    rw [Engine.traffic, h]
  unfold show_ Intake.visit
  dsimp only
  split
  · rcases s.engine.fire_traffic now w a with ⟨hf, ht⟩ | ⟨hf, hopen, hroom, ht⟩
    · simp only [hf, if_false, ht]
      exact .quiet _
    · simp only [hf, if_true, ht, h]
      rw [htraffic]
      exact .accept _ hopen hroom
  · exact .quiet _

theorem start_step (s : System) (outage : Outage) (hasRuntime : Bool) :
    Traffic.Step s.engine.traffic
      (effectOfStart s.engine.dispatch (s.start outage hasRuntime).1.engine.dispatch)
      (s.start outage hasRuntime).1.engine.traffic := by
  have hdispatch : ∀ {t : System} {x : Traffic}, t.engine.traffic = x → t.engine.dispatch = x.dispatch :=
    fun h => congrArg Traffic.dispatch h
  rcases s.start_traffic outage hasRuntime with ht | ⟨hparked, hstopped, ht | ht⟩
  · have he : effectOfStart s.engine.dispatch (s.start outage hasRuntime).1.engine.dispatch
        = .none := by
      rw [hdispatch ht]
      simp [effectOfStart, Engine.traffic]
    rw [he, ht]
    exact .quiet _
  · have he : effectOfStart s.engine.dispatch (s.start outage hasRuntime).1.engine.dispatch
        = .none := by
      rw [hdispatch ht]
      simp [effectOfStart, Dispatch.isOpen]
    rw [he, ht, Engine.traffic, hstopped]
    exact .start hparked
  · have he : effectOfStart s.engine.dispatch (s.start outage hasRuntime).1.engine.dispatch
        = .discarded := by
      rw [hdispatch ht]
      simp [effectOfStart, Dispatch.isOpen, Dispatch.close, hparked]
    rw [he, ht, Engine.traffic, hstopped]
    exact .startFailed hparked

/-- What a move does to the engine. -/
inductive EngineStep (s : System) : Move → Effect → Engine → Prop where
  | start (outage : Outage) (hasRuntime : Bool) :
      EngineStep s (.start outage hasRuntime)
        (effectOfStart s.engine.dispatch (s.start outage hasRuntime).1.engine.dispatch)
        (s.start outage hasRuntime).1.engine
  | stop : EngineStep s .stop .none { s.engine with stopped := true }
  /-- The active set may be another one. -/
  | refresh {m : Move} {e : Engine} (hm : m.isVisit = false) (h : s.engine.Refreshed e) :
      EngineStep s m .none e
  | visit {es : Evaluators} {now : Nat} {a : Attestation} {w : Watcher}
      (h : s.engine.dispatching = true) :
      EngineStep s (.visit es now a w) (s.show_ es now a w).2 (s.show_ es now a w).1.engine
  /-- The dispatcher or an action goes on. -/
  | work {m : Move} {e : Effect} {d : Dispatch} (hm : m.isVisit = false)
      (h : Traffic.Step s.engine.traffic e ⟨d, s.engine.dispatching, s.engine.stopped⟩)
      (hparked : s.engine.dispatch.receiver = .parked → d.receiver = .parked)
      (hqueues : ∀ id, e.queues id = false) : EngineStep s m e { s.engine with dispatch := d }

variable {s t : System} {m : Move} {e : Effect}

theorem finish_step (s : System) (outage : Outage) (now : Moment) {index : Nat} {f : Flight}
    (m : Message) {outcome : Except Fault Unit} {move : Move} (hm : move.isVisit = false)
    (h : s.engine.dispatch.flights[index]? = some f)
    (hinvoked : f.gate = none → outcome = .error (.dispatch .noInvoker)) :
    EngineStep s move (s.finish outage now index m outcome).2
      (s.finish outage now index m outcome).1.engine := by
  obtain ⟨hfire, herror⟩ := settle_spec (s.withDispatch (s.engine.dispatch.land index)) outage now m
    outcome
  simp only [finish, settle_engine]
  exact .work hm (.finish h hinvoked hfire herror) id fun _ => rfl

/-- What any move does to the engine. -/
theorem engine_step (h : s.step? m = some (t, e)) : EngineStep s m e t.engine := by
  cases step_of_step? h with
  | start outage hasRuntime => exact .start outage hasRuntime
  | stop =>
    unfold stop
    split
    · exact .refresh rfl (.inl rfl)
    · exact .stop
  | reload outage => exact .refresh rfl (s.reload_reloaded outage).engine
  | compile => exact .refresh rfl (s.compile_refreshed ..)
  | cleanUp => exact .refresh rfl (s.cleanUp_refreshed ..)
  | change | arrive | ignore => exact .refresh rfl (.inl rfl)
  | visit es now a w hd => exact .visit hd
  | wake hr => exact .work rfl (.wake hr) (by simp [hr]) fun _ => rfl
  | proceed hd =>
    refine .work rfl (Dispatch.move_step hd) (fun hp => ?_) fun id => ?_
    · simp [Dispatch.move?, hp] at hd
    · unfold effectOf
      split
      · rfl
      · split <;> rfl
  | invoke index gate hf => exact .work rfl (.invoke gate hf) id fun _ => rfl
  | finish outage now index outcome hf => exact s.finish_step outage now _ rfl hf (by simp)
  | giveUp outage now index hf => exact s.finish_step outage now _ rfl hf fun _ => rfl

/-- What any move does to the traffic. -/
theorem traffic_step (h : s.step? m = some (t, e)) :
    Traffic.Step s.engine.traffic e t.engine.traffic := by
  have hstep := engine_step h
  generalize t.engine = e' at hstep ⊢
  cases hstep with
  | start outage hasRuntime => exact s.start_step outage hasRuntime
  | stop => exact .stop
  | refresh _ hr =>
    rw [hr.traffic]
    exact .quiet _
  | visit hd => exact s.show_traffic _ _ _ _ hd
  | work _ hs => exact hs

end System

end Watchtower
