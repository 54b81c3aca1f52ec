import Mathlib.Data.List.Nodup
import Mathlib.Data.List.Perm.Basic
import Mathlib.Tactic.Common
import Watchtower.Proofs.Run.Traffic

/-!
Where every message goes.

An observer numbers messages as the queue takes them and keeps a ledger of where each one is: in the
queue, in the dispatcher's hand, in flight, completed or discarded. The ledger only looks on; it is
computed from the effects of moves (`Ledger.add`). It agrees with the engine at all times
(`Ledger.Tracks`), which is proved step by step from what a move can do to the traffic.
-/

namespace Watchtower

open scoped List

/-- A message that the queue has taken, with its place in the order of such messages. -/
structure Ticket where
  number : Nat
  message : Message

/-- An action that has ended. -/
structure Completion where
  ticket : Ticket
  outcome : Except Fault Unit
  attempts : List Book

/-- What the observer knows. -/
structure Ledger where
  /-- All that the queue ever took, in order. -/
  accepted : List Ticket
  queued : List Ticket
  hand : Option Ticket
  flights : List Ticket
  completed : List Completion
  discarded : List Ticket
  /-- All that ever got a permit, in order. -/
  launched : List Ticket
  /-- All invocations, in order. -/
  invoked : List Ticket

namespace Receiver

/-- The message in the dispatcher's hand. -/
def inHand? : Receiver → Option Message
  | holding m => some m
  | _ => none

end Receiver

namespace Ledger

def empty : Ledger := ⟨[], [], none, [], [], [], [], []⟩

/-- Writes down the effect of a move. -/
def add (l : Ledger) : Effect → Ledger
  | .none => l
  | .accepted m => { l with
      accepted := l.accepted ++ [⟨l.accepted.length, m⟩]
      queued := l.queued ++ [⟨l.accepted.length, m⟩] }
  | .taken => { l with queued := l.queued.tail, hand := l.queued.head? }
  | .discarded => { l with queued := [], discarded := l.discarded ++ l.queued }
  | .launched => { l with
      hand := none
      flights := l.flights ++ l.hand.toList
      launched := l.launched ++ l.hand.toList }
  | .invoked index => { l with invoked := l.invoked ++ l.flights[index]?.toList }
  | .finished index outcome attempts => { l with
      flights := l.flights.eraseIdx index
      completed := l.completed ++ (l.flights[index]?.map (⟨·, outcome, attempts⟩)).toList }

/-- The ledger agrees with the traffic. -/
structure Tracks (l : Ledger) (x : Traffic) : Prop where
  queued : l.queued.map (·.message) = x.dispatch.queue
  hand : l.hand.map (·.message) = x.dispatch.receiver.inHand?
  flights : l.flights.map (·.message) = x.dispatch.flights.map (·.message)
  /-- Messages are numbered in the order in which they were taken. -/
  numbers : l.accepted.map (·.number) = List.range l.accepted.length
  /-- Messages leave the queue in the order in which they came. -/
  order : l.launched ++ l.hand.toList ++ l.queued ++ l.discarded = l.accepted
  launched : (l.flights ++ l.completed.map (·.ticket)).Perm l.launched
  once : l.invoked.Nodup
  flown : ∀ t ∈ l.invoked, t ∈ l.launched
  fresh : ∀ {i : Nat} {t : Ticket} {f : Flight}, l.flights[i]? = some t → x.dispatch.flights[i]? = some f →
    (f.gate = none ↔ t ∉ l.invoked)
  ended : ∀ c ∈ l.completed, c.ticket ∈ l.invoked ∨ c.outcome = .error (.dispatch .noInvoker)
  books : ∀ c ∈ l.completed,
    (c.attempts.countP Book.isFire = if c.outcome.isOk then 1 else 0) ∧
      c.attempts.countP Book.isError = if c.outcome.isOk then 0 else 1
  /-- Nothing is discarded while the queue is open. -/
  whole : x.dispatch.receiver ≠ .gone → l.discarded = []
  /-- Nothing is discarded unless the engine has been stopped. -/
  running : x.stopped = false → l.discarded = []
  /-- Nothing is queued before the engine has been started. -/
  idle : x.dispatch.receiver = .parked → x.dispatching = false ∧ l.queued = []
  /-- Nothing is queued once the queue is closed. -/
  gone : x.dispatch.receiver = .gone → l.queued = []
  room : x.dispatch.queue.length ≤ x.dispatch.capacity
  permits : x.dispatch.flights.length ≤ x.dispatch.limit
  /-- Without permits nothing is ever launched. -/
  starved : x.dispatch.limit = 0 → l.launched = []

variable {l : Ledger} {d : Dispatch} {b s : Bool}

/-! ### Consequences of agreement -/

namespace Tracks

variable {x : Traffic}

theorem accepted_nodup (h : l.Tracks x) : l.accepted.Nodup :=
  List.Nodup.of_map (·.number) (h.numbers ▸ List.nodup_range)

/-- Every message that was taken is in one place. -/
theorem places (h : l.Tracks x) :
    (l.queued ++ l.hand.toList ++ l.flights ++ l.completed.map (·.ticket) ++ l.discarded).Perm
      l.accepted := by
  rw [← h.order]
  refine List.Perm.append_right _ ?_
  calc
    l.queued ++ l.hand.toList ++ l.flights ++ l.completed.map (·.ticket)
      ~ l.queued ++ l.hand.toList ++ l.launched := by
      rw [List.append_assoc _ l.flights]
      exact h.launched.append_left _
    _ ~ l.launched ++ (l.queued ++ l.hand.toList) := List.perm_append_comm
    _ ~ l.launched ++ (l.hand.toList ++ l.queued) := List.perm_append_comm.append_left _
    _ = l.launched ++ l.hand.toList ++ l.queued := (List.append_assoc ..).symm

theorem launched_nodup (h : l.Tracks x) : l.launched.Nodup := by
  have hn := h.accepted_nodup
  rw [← h.order, List.append_assoc, List.append_assoc] at hn
  exact hn.of_append_left

theorem flights_nodup (h : l.Tracks x) : l.flights.Nodup :=
  (h.launched.nodup_iff.2 h.launched_nodup).of_append_left

/-- What is in hand has no permit yet. -/
theorem hand_not_launched (h : l.Tracks x) {t : Ticket} (ht : l.hand = some t) :
    t ∉ l.launched := by
  intro hl
  have hn := h.accepted_nodup
  rw [← h.order, ht, List.append_assoc, List.append_assoc] at hn
  exact (List.nodup_append.1 hn).2.2 t hl t (by simp) rfl

theorem length_flights (h : l.Tracks x) : l.flights.length = x.dispatch.flights.length := by
  have hlen := congrArg List.length h.flights
  rwa [List.length_map, List.length_map] at hlen

theorem flown_of_flights (h : l.Tracks x) {t : Ticket} (ht : t ∈ l.flights) : t ∈ l.launched :=
  h.launched.subset (List.mem_append_left _ ht)

/-! ### Each effect keeps the agreement -/

theorem accept (m : Message) (h : l.Tracks ⟨d, true, s⟩) (hopen : d.receiver ≠ .gone)
    (hroom : d.queue.length < d.capacity) :
    (l.add (.accepted m)).Tracks ⟨{ d with queue := d.queue ++ [m] }, true, s⟩ :=
  { h with
    queued := by
      simp only [add, List.map_append, List.map_singleton]
      rw [h.queued]
    numbers := by
      simp only [add, List.map_append, List.map_singleton, List.length_append, List.length_singleton]
      rw [h.numbers, List.range_succ]
    order := by
      have ho := h.order
      rw [h.whole hopen, List.append_nil] at ho
      simp only [add, h.whole hopen, List.append_nil]
      rw [← List.append_assoc, ho]
    idle := fun hp => absurd (h.idle hp).1 (by simp)
    gone := fun hg => absurd hg hopen
    room := by
      rw [List.length_append, List.length_singleton]
      exact hroom }

theorem take {m : Message} {rest : List Message} (h : l.Tracks ⟨d, b, false⟩)
    (hr : d.receiver = .waiting) (hq : d.queue = m :: rest) :
    (l.add .taken).Tracks ⟨{ d with queue := rest, receiver := .holding m }, b, false⟩ := by
  have hqueued := h.queued
  simp only [hq] at hqueued
  obtain ⟨t, ts, hl, rfl, rfl⟩ := List.map_eq_cons_iff.1 hqueued
  have hhand : l.hand = none := by
    have hh := h.hand
    simp only [hr, Receiver.inHand?] at hh
    exact Option.map_eq_none_iff.1 hh
  exact { h with
    queued := by simp only [add, hl, List.tail_cons]
    hand := by simp only [add, hl, List.head?_cons, Option.map_some, Receiver.inHand?]
    order := by
      refine Eq.trans ?_ h.order
      simp [add, hl, hhand]
    whole := fun _ => h.whole (by simp [hr])
    idle := nofun
    gone := nofun
    room := by
      have hroom := h.room
      simp only [hq, List.length_cons] at hroom
      exact Nat.le_of_succ_le hroom }

/-- Dropping the queue of an open receiving end whose dispatcher has nothing in hand. -/
theorem close (h : l.Tracks ⟨d, b, s⟩) (hopen : d.receiver ≠ .gone) (hhand : d.receiver.inHand? = none)
    (hs : s = false → l.queued = []) : (l.add .discarded).Tracks ⟨d.close, b, s⟩ := by
  have hnone : l.hand = none := Option.map_eq_none_iff.1 (h.hand.trans hhand)
  have hwhole := h.whole hopen
  exact { h with
    queued := rfl
    hand := by simp [add, hnone, Dispatch.close, Receiver.inHand?]
    order := by
      refine Eq.trans ?_ h.order
      simp [add, hwhole]
    whole := fun hg => absurd rfl hg
    running := fun hr => by simp [add, hwhole, hs hr]
    idle := nofun
    gone := fun _ => rfl
    room := Nat.zero_le _ }

theorem launch {m : Message} (h : l.Tracks ⟨d, b, s⟩) (hr : d.receiver = .holding m)
    (hpermit : d.flights.length < d.limit) : (l.add .launched).Tracks ⟨d.launch m, b, s⟩ := by
  have hh := h.hand
  simp only [hr, Receiver.inHand?] at hh
  obtain ⟨t, ht, rfl⟩ := Option.map_eq_some_iff.1 hh
  have hopen : d.receiver ≠ .gone := by simp [hr]
  have hlen := h.length_flights
  exact { h with
    hand := rfl
    flights := by
      have hf := h.flights
      simp only [add, Dispatch.launch, ht, Option.toList_some, List.map_append, List.map_singleton]
      rw [hf]
    order := by
      refine Eq.trans ?_ h.order
      simp [add, ht]
    launched := by
      simp only [add, ht, Option.toList_some]
      calc
        l.flights ++ [t] ++ l.completed.map (·.ticket)
          ~ l.flights ++ (l.completed.map (·.ticket) ++ [t]) := by
          rw [List.append_assoc]
          exact List.perm_append_comm.append_left _
        _ = l.flights ++ l.completed.map (·.ticket) ++ [t] := (List.append_assoc ..).symm
        _ ~ l.launched ++ [t] := h.launched.append_right _
    flown := fun u hu => List.mem_append_left _ (h.flown u hu)
    fresh := by
      intro i u f hu hf
      simp only [add, ht, Option.toList_some] at hu
      simp only [Dispatch.launch] at hf
      rcases Nat.lt_or_ge i l.flights.length with hi | hi
      · rw [List.getElem?_append_left hi] at hu
        rw [List.getElem?_append_left (hlen ▸ hi)] at hf
        exact h.fresh hu hf
      · -- the new flight has not been invoked, for nothing is before it has its permit
        rw [List.getElem?_append_right hi] at hu
        rw [List.getElem?_append_right (hlen ▸ hi)] at hf
        obtain rfl := List.mem_singleton.1 (List.mem_of_getElem? hu)
        obtain rfl := List.mem_singleton.1 (List.mem_of_getElem? hf)
        exact iff_of_true rfl fun hi => h.hand_not_launched ht (h.flown _ hi)
    whole := fun _ => h.whole hopen
    idle := nofun
    gone := nofun
    permits := by
      simp only [Dispatch.launch, List.length_append, List.length_singleton]
      exact hpermit
    starved := fun hz => by
      have hz : d.limit = 0 := hz
      omega }

theorem invoke {m : Message} {index : Nat} (gate : Nat) (h : l.Tracks ⟨d, b, s⟩)
    (hf : d.flights[index]? = some ⟨m, none⟩) :
    (l.add (.invoked index)).Tracks ⟨d.invoke index gate, b, s⟩ := by
  have hi : index < l.flights.length := by
    rw [h.length_flights]
    exact (List.getElem?_eq_some_iff.1 hf).1
  obtain ⟨t, ht⟩ : ∃ t, l.flights[index]? = some t := ⟨_, List.getElem?_eq_getElem hi⟩
  have hfresh : t ∉ l.invoked := (h.fresh ht hf).1 rfl
  have hmem : t ∈ l.flights := List.mem_of_getElem? ht
  have hadd : (l.add (.invoked index)).invoked = l.invoked ++ [t] := by simp [add, ht]
  exact { h with
    flights := by
      rw [Dispatch.messages_invoke]
      exact h.flights
    once := by
      rw [hadd, List.nodup_append]
      refine ⟨h.once, List.nodup_singleton t, fun u hu v hv e => hfresh ?_⟩
      rw [← List.mem_singleton.1 hv, ← e]
      exact hu
    flown := by
      intro u hu
      rw [hadd, List.mem_append, List.mem_singleton] at hu
      rcases hu with hu | rfl
      · exact h.flown u hu
      · exact h.flown_of_flights hmem
    fresh := by
      intro i u f hu hfi
      simp only [Dispatch.invoke, List.getElem?_modify] at hfi
      rw [hadd, List.mem_append, List.mem_singleton]
      by_cases hj : index = i
      · subst hj
        rw [hf] at hfi
        simp only [if_true, Option.map_eq_map, Option.map_some, Option.some.injEq] at hfi
        subst hfi
        rw [show l.flights[index]? = some u from hu] at ht
        simp [Option.some.inj ht]
      · -- all flights are different, so the others are invoked or not as they were
        have hne : u ≠ t := by
          rintro rfl
          exact hj ((List.getElem?_inj hi h.flights_nodup).1 (ht.trans hu.symm))
        simp only [hj, if_false, Option.map_eq_map, Option.map_id_fun', id_eq] at hfi
        simpa [hne] using h.fresh hu hfi
    ended := by
      intro c hc
      rcases h.ended c hc with hinv | hout
      · exact .inl (hadd ▸ List.mem_append_left _ hinv)
      · exact .inr hout
    permits := by
      have hp := h.permits
      simpa [Dispatch.invoke] using hp }

theorem finish {f : Flight} {index : Nat} {outcome : Except Fault Unit} {attempts : List Book}
    (h : l.Tracks ⟨d, b, s⟩) (hf : d.flights[index]? = some f)
    (hinvoked : f.gate = none → outcome = .error (.dispatch .noInvoker))
    (hfire : attempts.countP Book.isFire = if outcome.isOk then 1 else 0)
    (herror : attempts.countP Book.isError = if outcome.isOk then 0 else 1) :
    (l.add (.finished index outcome attempts)).Tracks ⟨d.land index, b, s⟩ := by
  have hi : index < l.flights.length := by
    rw [h.length_flights]
    exact (List.getElem?_eq_some_iff.1 hf).1
  obtain ⟨t, ht⟩ : ∃ t, l.flights[index]? = some t := ⟨_, List.getElem?_eq_getElem hi⟩
  have hadd : (l.add (.finished index outcome attempts)).completed =
      l.completed ++ [⟨t, outcome, attempts⟩] := by simp [add, ht]
  exact { h with
    flights := by
      have hmap := h.flights
      simp only [add, Dispatch.land, ← List.eraseIdx_map]
      rw [hmap]
    launched := by
      obtain ⟨_, rfl⟩ := List.getElem?_eq_some_iff.1 ht
      rw [hadd, List.map_append, List.map_singleton]
      calc
        l.flights.eraseIdx index ++ (l.completed.map (·.ticket) ++ [l.flights[index]])
          ~ l.flights.eraseIdx index ++ (l.flights[index] :: l.completed.map (·.ticket)) :=
          List.perm_append_comm.append_left _
        _ ~ l.flights[index] :: l.flights.eraseIdx index ++ l.completed.map (·.ticket) :=
          List.perm_middle
        _ ~ l.flights ++ l.completed.map (·.ticket) :=
          (List.getElem_cons_eraseIdx_perm hi).append_right _
        _ ~ l.launched := h.launched
    fresh := by
      intro i u g hu hg
      simp only [add, Dispatch.land, List.getElem?_eraseIdx] at hu hg
      split at hu
      · next hlt =>
        rw [if_pos hlt] at hg
        exact h.fresh hu hg
      · next hge =>
        rw [if_neg hge] at hg
        exact h.fresh hu hg
    ended := by
      intro c hc
      rw [hadd, List.mem_append, List.mem_singleton] at hc
      rcases hc with hc | rfl
      · exact h.ended c hc
      · by_cases hg : f.gate = none
        · exact .inr (hinvoked hg)
        · exact .inl (not_not.1 fun hn => hg ((h.fresh ht hf).2 hn))
    books := by
      intro c hc
      rw [hadd, List.mem_append, List.mem_singleton] at hc
      rcases hc with hc | rfl
      · exact h.books c hc
      · exact ⟨hfire, herror⟩
    permits := (List.length_eraseIdx_le ..).trans h.permits }

/-- Every step of the traffic keeps the agreement. -/
theorem step {y : Traffic} {e : Effect} (h : l.Tracks x) (hs : Traffic.Step x e y) :
    (l.add e).Tracks y := by
  cases hs with
  | quiet => exact h
  | start hr =>
    exact { h with
      hand := h.hand.trans (by simp [hr, Receiver.inHand?])
      whole := fun _ => h.whole (by simp [hr])
      idle := nofun
      gone := nofun }
  | startFailed hr =>
    exact h.close (by simp [hr]) (by simp [hr, Receiver.inHand?]) fun _ => (h.idle hr).2
  | stop => exact { h with running := nofun }
  | accept m hopen hroom => exact h.accept m hopen hroom
  | wake hr =>
    exact { h with
      hand := h.hand.trans (by simp [hr, Receiver.inHand?])
      whole := fun _ => h.whole (by simp [hr])
      idle := nofun
      gone := nofun }
  | take hr hq => exact h.take hr hq
  | drop hr => exact h.close (by simp [hr]) (by simp [hr, Receiver.inHand?]) nofun
  | launch hr hpermit => exact h.launch hr hpermit
  | invoke gate hf => exact h.invoke gate hf
  | finish hf hinvoked hfire herror => exact h.finish hf hinvoked hfire herror

end Tracks

theorem tracks_build {config : EngineConfig} {exports : Bool} {e : Engine}
    (h : Engine.build config exports = .ok e) : empty.Tracks e.traffic := by
  rw [(Engine.build_eq_ok h).1]
  exact {
    queued := rfl
    hand := rfl
    flights := rfl
    numbers := rfl
    order := rfl
    launched := List.Perm.refl _
    once := List.nodup_nil
    flown := fun _ ht => absurd ht List.not_mem_nil
    fresh := fun hu => by simp [empty] at hu
    ended := fun _ hc => absurd hc List.not_mem_nil
    books := fun _ hc => absurd hc List.not_mem_nil
    whole := fun _ => rfl
    running := fun _ => rfl
    idle := fun _ => ⟨rfl, rfl⟩
    gone := nofun
    room := Nat.zero_le _
    permits := Nat.zero_le _
    starved := fun _ => rfl }

end Ledger

/-! ### Observed runs -/

/-- A system and the ledger of its observer. -/
structure Observed where
  system : System
  ledger : Ledger

namespace Observed

/-- An observer that has seen nothing yet. -/
def begin_ (s : System) : Observed := ⟨s, .empty⟩

/-- A move under observation. -/
def step? (x : Observed) (m : Move) : Option Observed :=
  (x.system.step? m).map fun (s, e) => ⟨s, x.ledger.add e⟩

/-- Moves one after the other, if all of them are in place. -/
def run? (x : Observed) (ms : List Move) : Option Observed := ms.foldlM step? x

variable {x y : Observed}

/-- The observer of a run does not change it. -/
theorem run?_of_foldlM {s t : System} {ms : List Move} (l : Ledger)
    (h : ms.foldlM (fun s m => (s.step? m).map Prod.fst) s = some t) :
    ∃ l', run? ⟨s, l⟩ ms = some ⟨t, l'⟩ := by
  induction ms generalizing s l with
  | nil =>
    obtain rfl := Option.some.inj h
    exact ⟨l, rfl⟩
  | cons m ms ih =>
    obtain ⟨v, e, hstep, hrun⟩ := System.run?_cons_eq_some.1 h
    obtain ⟨l', hl⟩ := ih (l.add e) hrun
    refine ⟨l', ?_⟩
    rw [run?, List.foldlM_cons, step?, hstep]
    exact hl

/-- Every run of a system can be observed from its beginning. -/
theorem run?_of_runs {s t : System} (h : s.Runs t) :
    ∃ ms l, (begin_ s).run? ms = some ⟨t, l⟩ := by
  obtain ⟨ms, hms⟩ := h
  obtain ⟨l, hl⟩ := run?_of_foldlM .empty hms
  exact ⟨ms, l, hl⟩

theorem step?_eq_some {m : Move} (h : x.step? m = some y) :
    ∃ e, Traffic.Step x.system.engine.traffic e y.system.engine.traffic ∧
      y.ledger = x.ledger.add e := by
  obtain ⟨⟨t, e⟩, hstep, rfl⟩ := Option.map_eq_some_iff.1 h
  exact ⟨e, System.traffic_step hstep, rfl⟩

/-- What every step of the traffic keeps, every run keeps. -/
theorem run_induction {P : Traffic → Ledger → Prop}
    (hstep : ∀ {a b e l}, Traffic.Step a e b → P a l → P b (l.add e)) {ms : List Move}
    (hx : P x.system.engine.traffic x.ledger) (h : x.run? ms = some y) :
    P y.system.engine.traffic y.ledger := by
  refine foldlM_keeps (P := fun x => P x.system.engine.traffic x.ledger) (fun _ hz hx => ?_) hx h
  obtain ⟨e, hs, hl⟩ := step?_eq_some hz
  rw [hl]
  exact hstep hs hx

/-- No message is lost or doubled. -/
structure Conserved (config : EngineConfig) (x : Observed) : Prop where
  /-- No two messages that the queue took are the same. -/
  distinct : x.ledger.accepted.Nodup
  /-- Each of them is in exactly one place. -/
  places : x.ledger.queued ++ x.ledger.hand.toList ++ x.ledger.flights
    ++ x.ledger.completed.map (·.ticket) ++ x.ledger.discarded ~ x.ledger.accepted
  /-- The places are those of the engine. -/
  queued : x.ledger.queued.map (·.message) = x.system.engine.dispatch.queue
  hand : x.ledger.hand.map (·.message) = x.system.engine.dispatch.receiver.inHand?
  flights : x.ledger.flights.map (·.message) = x.system.engine.dispatch.flights.map (·.message)
  /-- What is invoked has been taken and launched, and is invoked once. -/
  invoked : x.ledger.invoked.Nodup ∧ x.ledger.invoked ⊆ x.ledger.launched
  /-- Without a stop nothing is discarded. -/
  kept : x.system.engine.stopped = false → x.ledger.discarded = []
  /-- Permits are given in the order of the queue. -/
  inOrder : x.ledger.launched <+: x.ledger.accepted
  room : x.system.engine.dispatch.queue.length ≤ config.queueSize
  permits : x.system.engine.dispatch.flights.length ≤ config.maxInFlight
  /-- Whatever is completed was invoked or had no invoker. -/
  ended : ∀ c ∈ x.ledger.completed,
    c.ticket ∈ x.ledger.invoked ∨ c.outcome = .error (.dispatch .noInvoker)
  /-- A success makes one attempt to record a fire, a failure one to record an error, neither one of
  the other kind. -/
  books : ∀ c ∈ x.ledger.completed,
    (c.attempts.countP Book.isFire = if c.outcome.isOk then 1 else 0) ∧
      c.attempts.countP Book.isError = if c.outcome.isOk then 0 else 1

/-- In every run the ledger agrees with the engine, whose sizes are those of its settings. -/
theorem tracks_run {config : EngineConfig} {exports : Bool} {e : Engine}
    (hb : Engine.build config exports = .ok e) {store : Store} {metrics : Metrics}
    {journal : List Event} {ms : List Move} {x : Observed}
    (h : (begin_ ⟨store, e, metrics, journal⟩).run? ms = some x) :
    x.ledger.Tracks x.system.engine.traffic ∧
      x.system.engine.dispatch.capacity = config.queueSize ∧
      x.system.engine.dispatch.limit = config.maxInFlight := by
  refine run_induction (P := fun a l => l.Tracks a ∧ a.dispatch.capacity = config.queueSize ∧
    a.dispatch.limit = config.maxInFlight) ?_ ?_ h
  · rintro a b e l hs ⟨ht, hc, hl⟩
    obtain ⟨hc', hl'⟩ := hs.sizes
    exact ⟨ht.step hs, hc'.trans hc, hl'.trans hl⟩
  · refine ⟨Ledger.tracks_build hb, ?_⟩
    have htraffic := (Engine.build_eq_ok hb).1
    exact ⟨congrArg (·.dispatch.capacity) htraffic, congrArg (·.dispatch.limit) htraffic⟩

/-- An engine that a ledger agrees with loses and doubles nothing. -/
theorem conserved_of_tracks {config : EngineConfig} {x : Observed}
    (ht : x.ledger.Tracks x.system.engine.traffic)
    (hcapacity : x.system.engine.dispatch.capacity = config.queueSize)
    (hlimit : x.system.engine.dispatch.limit = config.maxInFlight) : x.Conserved config := by
  have hprefix : x.ledger.launched <+: x.ledger.accepted := by
    rw [← ht.order, List.append_assoc, List.append_assoc]
    exact List.prefix_append _ _
  exact {
    distinct := ht.accepted_nodup
    places := ht.places
    queued := ht.queued
    hand := ht.hand
    flights := ht.flights
    invoked := ⟨ht.once, ht.flown⟩
    kept := ht.running
    inOrder := hprefix
    room := hcapacity ▸ ht.room
    permits := hlimit ▸ ht.permits
    ended := ht.ended
    books := ht.books }

/-- Every run of a new engine can be observed, and loses and doubles nothing. -/
theorem conserved_of_runs {config : EngineConfig} {exports : Bool} {e : Engine}
    (hb : Engine.build config exports = .ok e) {store : Store} {metrics : Metrics}
    {journal : List Event} {s : System}
    (h : System.Runs ⟨store, e, metrics, journal⟩ s) : ∃ l, Conserved config ⟨s, l⟩ := by
  obtain ⟨ms, l, hrun⟩ := run?_of_runs h
  obtain ⟨ht, hcapacity, hlimit⟩ := tracks_run hb hrun
  exact ⟨l, conserved_of_tracks ht hcapacity hlimit⟩

/-- In every run of a new engine over any store, whatever the order of its moves, no message is lost
or doubled. -/
theorem run_conserves {config : EngineConfig} {exports : Bool} {e : Engine}
    (hb : Engine.build config exports = .ok e) (store : Store) (metrics : Metrics)
    (journal : List Event) (ms : List Move) {x : Observed}
    (h : (begin_ ⟨store, e, metrics, journal⟩).run? ms = some x) : x.Conserved config := by
  obtain ⟨ht, hcapacity, hlimit⟩ := tracks_run hb h
  exact conserved_of_tracks ht hcapacity hlimit

end Observed

/-! A run with one message completed, one in hand and one in the queue. -/

namespace Sample

/-- A watcher that matches everything. -/
def hook : Watcher where
  id := "w"
  rule := ⟨"w", true, .webhook, "", .any, none, none, none, 60⟩
  stats := .none
  createdAt := default
  updatedAt := default

/-- Room for two messages, and one permit. -/
def tight : EngineConfig := ⟨2, 1, 60, .one, 1⟩

def engine : Engine where
  config := tight
  exports := false
  active := .empty
  limiter := ⟨60000, .empty⟩
  dispatch := .idle 2 1
  feed := .ofCapacity 1
  dispatching := false
  stopped := false

theorem build_engine : Engine.build tight false = .ok engine := if_neg (by decide)

def idle : System := ⟨.empty, engine, .zero, []⟩

/-- An attestation comes in and is a match of the watcher. -/
def match_ (attestation : String) : List Move :=
  [.arrive (.bare attestation default),
    .visit ⟨none, none⟩ 0 (.bare attestation default) hook]

/-- The watcher is stored before the engine starts. The first of three messages is invoked, the second
one waits for its permit. -/
def moves : List Move :=
  [.change (.create hook), .start .none true] ++ match_ "a"
    ++ [.wake, .proceed, .proceed, .invoke 0 0] ++ match_ "b" ++ [.proceed] ++ match_ "c"

end Sample

namespace Observed

theorem sample_conserved : ∃ x,
    (begin_ Sample.idle).run? (Sample.moves ++ [.finish .none default 0 (.ok ())]) = some x ∧
      x.Conserved Sample.tight := by
  have hsome : ((begin_ Sample.idle).run?
      (Sample.moves ++ [.finish .none default 0 (.ok ())])).isSome = true := by decide +kernel
  obtain ⟨x, hx⟩ := Option.isSome_iff_exists.1 hsome
  exact ⟨x, hx, run_conserves Sample.build_engine .empty .zero [] _ hx⟩

end Observed

end Watchtower
