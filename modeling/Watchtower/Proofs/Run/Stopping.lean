import Mathlib.Tactic.Common
import Watchtower.Proofs.Run.Ledger

/-!
What still happens after a stop.

The dispatcher looks out for the signal to stop only between two messages. Once the engine has been
stopped no message leaves the queue any more, so nothing is launched beyond what was launched or in
hand at the stop (`Observed.launched_after_stop`). The message in hand is the exception: it still
gets the next permit that becomes free, and its action is invoked (`Observed.stop_prevents_iff`).
-/

namespace Watchtower

namespace Ledger

/-- What has left the queue for the dispatcher, in order. -/
def taken (l : Ledger) : List Ticket := l.launched ++ l.hand.toList

/-- A stopped engine takes nothing from its queue. -/
theorem taken_step {l : Ledger} {x y : Traffic} {e : Effect} (h : Traffic.Step x e y)
    (hs : x.stopped = true) : (l.add e).taken = l.taken := by
  cases h with
  | start => cases hs
  | startFailed => cases hs
  | take => cases hs
  | launch => simp [taken, add]
  | quiet | stop | accept | wake | drop | invoke | finish => rfl

namespace Tracks

variable {l : Ledger} {x : Traffic} {t : Ticket}

theorem taken_prefix (h : l.Tracks x) : l.taken ++ (l.queued ++ l.discarded) = l.accepted := by
  rw [← h.order, taken, List.append_assoc _ l.queued]

/-- What is in the queue has not been taken from it. -/
theorem not_taken_of_queued (h : l.Tracks x) (ht : t ∈ l.queued) : t ∉ l.taken := by
  intro hl
  have hn := h.accepted_nodup
  rw [← h.taken_prefix] at hn
  exact (List.nodup_append.1 hn).2.2 t hl t (List.mem_append_left _ ht) rfl

/-- Without permits nothing is ever invoked. -/
theorem invoked_of_starved (h : l.Tracks x) (hz : x.dispatch.limit = 0) : t ∉ l.invoked := by
  intro ht
  have hl := h.flown t ht
  rw [h.starved hz] at hl
  exact List.not_mem_nil hl

theorem receiver_of_hand (h : l.Tracks x) (ht : l.hand = some t) :
    x.dispatch.receiver = .holding t.message := by
  have hh := h.hand
  rw [ht, Option.map_some] at hh
  cases hr : x.dispatch.receiver with
  | holding m =>
    rw [hr] at hh
    rw [Option.some.inj hh]
  | parked | waking | waiting | gone =>
    rw [hr] at hh
    cases hh

end Tracks

end Ledger

namespace Observed

variable {x y : Observed} {t : Ticket}

theorem run?_cons (x : Observed) (m : Move) (ms : List Move) :
    x.run? (m :: ms) = (x.step? m).bind fun y => y.run? ms := List.foldlM_cons

theorem run?_append {ms ns : List Move} (h : x.run? ms = some y) :
    x.run? (ms ++ ns) = y.run? ns := by
  have h : ms.foldlM step? x = some y := h
  rw [run?, List.foldlM_append, h]
  rfl

theorem run?_pair {z : Observed} {m n : Move} (h : x.step? m = some y) (h' : y.step? n = some z) :
    x.run? [m, n] = some z := by
  rw [run?_cons, h, Option.bind_some, run?_cons, h']
  rfl

theorem step?_stop (x : Observed) : x.step? .stop = some ⟨x.system.stop, x.ledger⟩ := rfl

theorem stop_traffic (s : System) :
    s.stop.engine.traffic = ⟨s.engine.dispatch, s.engine.dispatching, true⟩ := by
  unfold System.stop
  split
  · next h => rw [Engine.traffic, h]
  · rfl

/-- After a stop nothing is launched but what was launched or in hand when the engine stopped. -/
theorem launched_after_stop {ms : List Move} (h : x.run? (.stop :: ms) = some y) :
    y.ledger.taken = x.ledger.taken := by
  rw [run?_cons, step?_stop] at h
  refine (run_induction (P := fun a l => a.stopped = true ∧ l.taken = x.ledger.taken) ?_ ?_ h).2
  · rintro a b e l hs ⟨hstop, hl⟩
    exact ⟨hs.stopped hstop, (Ledger.taken_step hs hstop).trans hl⟩
  · rw [stop_traffic]
    exact ⟨rfl, rfl⟩

/-! ### A permit for the message in hand -/

theorem proceed_of_holding {m : Message} (hr : x.system.engine.dispatch.receiver = .holding m)
    (hp : x.system.engine.dispatch.flights.length < x.system.engine.dispatch.limit) :
    x.step? .proceed = some ⟨(x.system.withDispatch (x.system.engine.dispatch.launch m)).note [],
      x.ledger.add .launched⟩ := by
  simp only [step?, System.step?, Dispatch.move?, hr, hp, if_true, Option.map_some,
    System.effectOf]

theorem invoke_of_fresh {m : Message} {index : Nat} (gate : Nat)
    (hf : x.system.engine.dispatch.flights[index]? = some ⟨m, none⟩) :
    x.step? (.invoke index gate) =
      some ⟨x.system.withDispatch (x.system.engine.dispatch.invoke index gate),
        x.ledger.add (.invoked index)⟩ := by
  simp only [step?, System.step?, hf, Option.map_some]

theorem finish_of_invoked {m : Message} {index gate : Nat} (outage : Outage) (now : Moment)
    (outcome : Except Fault Unit)
    (hf : x.system.engine.dispatch.flights[index]? = some ⟨m, some gate⟩) :
    x.step? (.finish outage now index outcome) =
      some ⟨(x.system.finish outage now index m outcome).1,
        x.ledger.add (x.system.finish outage now index m outcome).2⟩ := by
  simp only [step?, System.step?, hf, Option.map_some]

/-- If the message in hand can get a permit, its action can be invoked. -/
theorem invoked_of_permit (ht : x.ledger.Tracks x.system.engine.traffic)
    (hhand : x.ledger.hand = some t)
    (hp : x.system.engine.dispatch.flights.length < x.system.engine.dispatch.limit) :
    ∃ ms y, x.run? ms = some y ∧ t ∈ y.ledger.invoked := by
  have hproceed := proceed_of_holding (ht.receiver_of_hand hhand) hp
  have hlen : x.ledger.flights.length = x.system.engine.dispatch.flights.length := ht.length_flights
  have hfresh : (x.system.engine.dispatch.launch t.message).flights[x.ledger.flights.length]? =
      some ⟨t.message, none⟩ := by
    rw [hlen, Dispatch.launch, List.getElem?_concat_length]
  refine ⟨_, _, run?_pair hproceed (invoke_of_fresh 0 hfresh), ?_⟩
  simp [Ledger.add, hhand]

/-- As long as anything is in flight, an action can end, which leaves the message in hand where it
is. -/
theorem permit_of_flight (hflight : 0 < x.system.engine.dispatch.flights.length) :
    ∃ ms y, x.run? ms = some y ∧ y.ledger.hand = x.ledger.hand ∧
      y.system.engine.dispatch.limit = x.system.engine.dispatch.limit ∧
      y.system.engine.dispatch.flights.length + 1 = x.system.engine.dispatch.flights.length := by
  -- an action that has been invoked can end
  have hend : ∀ {z : Observed} {m : Message} {gate : Nat},
      z.system.engine.dispatch.flights[0]? = some ⟨m, some gate⟩ →
      ∃ y, z.step? (.finish .none default 0 (.ok ())) = some y ∧ y.ledger.hand = z.ledger.hand ∧
        y.system.engine.dispatch.limit = z.system.engine.dispatch.limit ∧
        y.system.engine.dispatch.flights.length + 1 = z.system.engine.dispatch.flights.length := by
    intro z m gate hf
    refine ⟨_, finish_of_invoked .none default (.ok ()) hf, rfl, ?_, ?_⟩
    · simp [System.finish, System.withDispatch, Dispatch.land]
    · have hpos := (List.getElem?_eq_some_iff.1 hf).1
      simp [System.finish, System.withDispatch, Dispatch.land]
      omega
  obtain ⟨⟨m, gate⟩, hf⟩ : ∃ f, x.system.engine.dispatch.flights[0]? = some f :=
    ⟨_, List.getElem?_eq_getElem hflight⟩
  cases gate with
  | some gate =>
    obtain ⟨y, hy, hhand, hlimit, hlen⟩ := hend hf
    exact ⟨[_], y, by rw [run?_cons, hy]; rfl, hhand, hlimit, hlen⟩
  | none =>
    have hinvoke := invoke_of_fresh 0 hf
    have hf' : (x.system.engine.dispatch.invoke 0 0).flights[0]? = some ⟨m, some 0⟩ := by
      rw [Dispatch.invoke, List.getElem?_modify, hf]
      rfl
    obtain ⟨y, hy, hhand, hlimit, hlen⟩ := hend (z := ⟨x.system.withDispatch
      (x.system.engine.dispatch.invoke 0 0), x.ledger.add (.invoked 0)⟩) hf'
    refine ⟨_, y, run?_pair hinvoke hy, hhand, hlimit, hlen.trans ?_⟩
    simp [System.withDispatch, Dispatch.invoke]

/-- If the engine gives permits at all, the action of the message in hand can be invoked. -/
theorem invoked_of_hand (ht : x.ledger.Tracks x.system.engine.traffic)
    (hhand : x.ledger.hand = some t) (hpos : 0 < x.system.engine.dispatch.limit) :
    ∃ ms y, x.run? ms = some y ∧ t ∈ y.ledger.invoked := by
  rcases Nat.lt_or_ge x.system.engine.dispatch.flights.length x.system.engine.dispatch.limit
    with hp | hp
  · exact invoked_of_permit ht hhand hp
  · obtain ⟨ms, y, hy, hyhand, hlimit, hlen⟩ := permit_of_flight (Nat.lt_of_lt_of_le hpos hp)
    have hty : y.ledger.Tracks y.system.engine.traffic :=
      run_induction (P := fun a l => l.Tracks a) (fun hs h => h.step hs) ht hy
    have hfull : x.system.engine.dispatch.flights.length ≤ x.system.engine.dispatch.limit :=
      ht.permits
    obtain ⟨ns, z, hz, hinvoked⟩ := invoked_of_permit hty (hyhand.trans hhand) (by omega)
    exact ⟨ms ++ ns, z, (run?_append hy).trans hz, hinvoked⟩

/-! ### What a stop prevents -/

/-- A message that the queue has taken but that has no permit when the engine is stopped is never
invoked afterwards, whatever happens, except for the one in hand of an engine that gives permits,
and beyond that one nothing is launched but what had been launched before. -/
theorem stop_prevents_iff {config : EngineConfig} {exports : Bool} {e : Engine}
    (hb : Engine.build config exports = .ok e) (store : Store) (metrics : Metrics)
    (journal : List Event) {ms : List Move}
    (h : (begin_ ⟨store, e, metrics, journal⟩).run? ms = some x)
    (ht : t ∈ x.ledger.queued ∨ x.ledger.hand = some t) :
    ((∀ ns y, x.run? (.stop :: ns) = some y → t ∉ y.ledger.invoked) ↔
      ¬(x.ledger.hand = some t ∧ 0 < config.maxInFlight)) ∧
    ∀ ns y, x.run? (.stop :: ns) = some y →
      ∀ u ∈ y.ledger.launched, u ∈ x.ledger.launched ∨ x.ledger.hand = some u := by
  obtain ⟨htracks, -, hlimit⟩ := tracks_run hb h
  have hafter : ∀ {ns y}, x.run? (.stop :: ns) = some y → y.ledger.Tracks y.system.engine.traffic ∧
      y.system.engine.dispatch.limit = config.maxInFlight := by
    intro ns y hy
    have hy := (run?_append h).trans hy
    obtain ⟨hty, -, hl⟩ := tracks_run hb hy
    exact ⟨hty, hl⟩
  refine ⟨⟨?_, ?_⟩, ?_⟩
  · rintro hnever ⟨hhand, hpos⟩
    have hstop : Ledger.Tracks x.ledger x.system.stop.engine.traffic := by
      rw [stop_traffic]
      exact htracks.step .stop
    have hpos' : 0 < x.system.stop.engine.dispatch.limit := by
      rw [show x.system.stop.engine.dispatch = x.system.engine.dispatch from
        congrArg Traffic.dispatch (stop_traffic x.system), hlimit]
      exact hpos
    obtain ⟨ns, y, hy, hinvoked⟩ :=
      invoked_of_hand (x := ⟨x.system.stop, x.ledger⟩) hstop hhand hpos'
    refine hnever ns y ?_ hinvoked
    rw [run?_cons, step?_stop]
    exact hy
  · intro hnot ns y hy hinvoked
    obtain ⟨hty, hylimit⟩ := hafter hy
    rcases Nat.eq_zero_or_pos config.maxInFlight with hz | hpos
    · exact hty.invoked_of_starved (hylimit.trans hz) hinvoked
    · have hqueued : t ∈ x.ledger.queued := ht.resolve_right fun hhand => hnot ⟨hhand, hpos⟩
      have htaken : t ∈ y.ledger.taken := List.mem_append_left _ (hty.flown t hinvoked)
      rw [launched_after_stop hy] at htaken
      exact htracks.not_taken_of_queued hqueued htaken
  · intro ns y hy u hu
    have htaken : u ∈ y.ledger.taken := List.mem_append_left _ hu
    rw [launched_after_stop hy, Ledger.taken, List.mem_append, Option.mem_toList] at htaken
    exact htaken

/-- In the sample the message in the queue is never invoked once the engine has been stopped. -/
theorem sample_stop_prevents : ∃ x t, (begin_ Sample.idle).run? Sample.moves = some x ∧
    t ∈ x.ledger.queued ∧ ∀ ns y, x.run? (.stop :: ns) = some y → t ∉ y.ledger.invoked := by
  have hnumbers : ((begin_ Sample.idle).run? Sample.moves).map (fun x =>
      (x.ledger.queued.map (·.number), x.ledger.hand.map (·.number))) = some ([2], some 1) := by
    decide +kernel
  obtain ⟨x, hx, hnumbers⟩ := Option.map_eq_some_iff.1 hnumbers
  obtain ⟨hqueued, hhand⟩ := Prod.mk.inj hnumbers
  obtain ⟨t, ts, hq, htwo, -⟩ := List.map_eq_cons_iff.1 hqueued
  have ht : t ∈ x.ledger.queued := hq ▸ List.mem_cons_self
  refine ⟨x, t, hx, ht, ?_⟩
  refine (stop_prevents_iff Sample.build_engine .empty .zero [] hx (.inl ht)).1.2 ?_
  rintro ⟨hone, -⟩
  rw [hone, Option.map_some, htwo] at hhand
  cases hhand

/-- In the sample the message in hand is invoked after the engine has been stopped, as soon as the
first one has ended. -/
theorem sample_invoked_after_stop : ∃ x y, (begin_ Sample.idle).run? Sample.moves = some x ∧
    x.ledger.hand.map (·.number) = some 1 ∧ x.ledger.launched.map (·.number) = [0] ∧
    x.run? [.stop, .finish .none default 0 (.ok ()), .proceed, .invoke 0 0] = some y ∧
    y.ledger.invoked.map (·.number) = [0, 1] := by
  have hbefore : ((begin_ Sample.idle).run? Sample.moves).map (fun x =>
      (x.ledger.hand.map (·.number), x.ledger.launched.map (·.number))) = some (some 1, [0]) := by
    decide +kernel
  have hafter : ((begin_ Sample.idle).run? (Sample.moves ++
      [.stop, .finish .none default 0 (.ok ()), .proceed, .invoke 0 0])).map (fun y =>
        y.ledger.invoked.map (·.number)) = some [0, 1] := by
    decide +kernel
  obtain ⟨x, hx, hbefore⟩ := Option.map_eq_some_iff.1 hbefore
  obtain ⟨hhand, hlaunched⟩ := Prod.mk.inj hbefore
  rw [run?_append hx] at hafter
  obtain ⟨y, hy, hinvoked⟩ := Option.map_eq_some_iff.1 hafter
  exact ⟨x, y, hx, hhand, hlaunched, hy, hinvoked⟩

end Observed

end Watchtower
