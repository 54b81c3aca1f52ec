import Mathlib
import Watchtower.Proofs.Compilation.History
import Watchtower.Proofs.Run.Ledger
import Watchtower.Proofs.Run.StoreChanges

/-!
Statistics of a watcher that is compiled again and again.

The row of a compiled watcher is written by the compiler, which makes the watcher anew, and by the
bookkeeping of actions that have ended. What the row says of the past is at all times what the ends
of actions come to that there have been since the row was created (`Recorded.statistics_survive`):
a compilation hands the past on, one more ending adds itself, and nothing else touches the row.
-/

namespace Watchtower

/-! ### What endings come to -/

/-- The end of an action: when it was, and how it was. -/
structure Ending where
  at_ : Moment
  outcome : Except Fault Unit

namespace Ending

def succeeded (e : Ending) : Bool := e.outcome.isOk

def failed (e : Ending) : Bool := !e.outcome.isOk

/-- When the action succeeded, if it did. -/
def firedAt? (e : Ending) : Option Moment :=
  match e.outcome with
  | .ok () => some e.at_
  | .error _ => none

/-- The text of the failure, if the action failed. -/
def error? (e : Ending) : Option String :=
  match e.outcome with
  | .ok () => none
  | .error f => some f.message

/-- The book that is due for the watcher under an id. -/
def book (e : Ending) (id : String) : Book :=
  match e.outcome with
  | .ok () => .fire id e.at_
  | .error f => .error id f.message

end Ending

namespace Statistics

/-- The statistics after one more ending. -/
def after (stats : Statistics) (e : Ending) : Statistics :=
  match e.outcome with
  | .ok () => { stats with fires := stats.fires + 1, lastFiredAt := some e.at_ }
  | .error f => { stats with errors := stats.errors + 1, lastError := some f.message }

/-- The statistics of endings, the latest of which comes first. -/
def of (es : List Ending) : Statistics where
  fires := es.countP Ending.succeeded
  lastFiredAt := es.findSome? Ending.firedAt?
  errors := es.countP Ending.failed
  lastError := es.findSome? Ending.error?

theorem of_cons (e : Ending) (es : List Ending) : of (e :: es) = (of es).after e := by
  obtain ⟨at_, outcome⟩ := e
  cases outcome <;>
    simp [of, after, List.countP_cons, List.findSome?_cons, Ending.succeeded, Ending.failed,
      Ending.firedAt?, Ending.error?, Except.isOk, Except.toBool]

/-- There is room for one more ending. -/
def HasRoom (stats : Statistics) : Prop := stats.fires < limit ∧ stats.errors < limit

theorem hasRoom_of {es : List Ending} (h : es.length < limit) : (of es).HasRoom :=
  ⟨Nat.lt_of_le_of_lt List.countP_le_length h, Nat.lt_of_le_of_lt List.countP_le_length h⟩

end Statistics

/-! ### Which changes touch a row -/

/-- The change is about the row of a watcher. -/
def StoreChange.touches (id : String) : StoreChange → Bool
  | .create w | .createOrReplace w | .update w => w.id == id
  | .delete k | .recordFire k _ | .recordError k _ | .damageWatcher k => k == id
  | .deleteByStem stem => Naming.startsWith id stem
  | .upsertCursor _ | .deleteCursors _ | .damageCursor .. => false

namespace Store

variable {s t : Store} {id : String}

theorem row_put {k : String} {r : Row Watcher} (h : k ≠ id) :
    (s.watchers.put k r).get? id = s.watchers.get? id := by
  rw [Table.get?_put, if_neg h]

/-- Other rows stay as they are. -/
theorem row_apply {c : StoreChange} (h : c.touches id = false) :
    (s.apply c).watchers.get? id = s.watchers.get? id := by
  have haccept := fun r => accept_keeps (fun t => t.watchers.get? id = s.watchers.get? id)
    (s := s) (r := r) rfl
  cases c with
  | create w | createOrReplace w | update w =>
    have hne : w.id ≠ id := by simpa [StoreChange.touches] using h
    refine haccept _ fun t ht => ?_
    simp only [create_eq_ok, createOrReplace_eq_ok, update_eq_ok] at ht
    simp only [ht, write, row_put hne]
  | recordFire k at_ | recordError k message =>
    have hne : k ≠ id := by simpa [StoreChange.touches] using h
    refine haccept _ fun t ht => ?_
    obtain ⟨w, stats, -, -, rfl⟩ := record_eq_ok.1 ht
    exact row_put hne
  | delete k =>
    have hne : k ≠ id := by simpa [StoreChange.touches] using h
    exact (Table.get?_erase ..).trans (if_neg hne)
  | damageWatcher k => exact row_put (by simpa [StoreChange.touches] using h)
  | deleteByStem stem => exact (s.get?_deleteByStem stem id).trans (if_neg (Bool.eq_false_iff.1 h))
  | upsertCursor c => rw [Store.apply, watchers_upsertCursor]
  | deleteCursors | damageCursor => rfl

/-- Recording an outcome changes no rule. -/
theorem rule?_record {k : String} {change : Statistics → Except StoreFault Statistics}
    (h : s.record k change = .ok t) (id : String) : t.rule? id = s.rule? id := by
  obtain ⟨w, stats, hw, -, rfl⟩ := record_eq_ok.1 h
  by_cases hk : k = id
  · subst hk
    rw [rule?, rule?, Table.get?_put_self, hw]
    rfl
  · rw [rule?, rule?, row_put hk]

/-- An outcome is recorded if the call works and the counters have room. -/
theorem result_book {a : Access} {e : Ending} {w : Watcher}
    (hworks : a.outage (e.book id).call = none)
    (hw : a.store.watchers.get? id = some (.intact w)) (hroom : w.stats.HasRoom) :
    ((e.book id).attempt a).result = .ok { a.store with
      watchers := a.store.watchers.put id (.intact { w with stats := w.stats.after e }) } := by
  obtain ⟨at_, outcome⟩ := e
  cases outcome with
  | ok u =>
    have hrecord : a.store.recordFire id at_ = .ok _ :=
      record_eq_ok.2 ⟨w, _, hw, if_pos hroom.1, rfl⟩
    exact Access.attempt_result.2 ⟨hworks, hrecord⟩
  | error f =>
    have hrecord : a.store.recordError id f.message = .ok _ :=
      record_eq_ok.2 ⟨w, _, hw, if_pos hroom.2, rfl⟩
    exact Access.attempt_result.2 ⟨hworks, hrecord⟩

end Store

namespace System

variable {s t : System} {outage : Outage} {now : Moment} {m : Message}
  {outcome : Except Fault Unit} {id : String}

/-! ### What settling an action leaves in a row -/

/-- What is due is the book of the ending, and cursors. -/
theorem due_eq (now : Moment) (m : Message) (outcome : Except Fault Unit) : ∃ cs : List Cursor,
    Book.due now m outcome = Ending.book ⟨now, outcome⟩ m.watcher.id :: cs.map Book.cursor := by
  cases outcome with
  | ok u => exact ⟨(cursorAfter? m).toList, rfl⟩
  | error f => exact ⟨[], rfl⟩

theorem row_keepBooks (s : System) (outage : Outage) (w : Watcher) (operation : String) {b : Book}
    (h : b.change.touches id = false) :
    (s.keepBooks w operation (b.attempt (s.access outage))).1.store.watchers.get? id =
      s.store.watchers.get? id := by
  refine (s.evolves_keepBooks outage w operation b).keeps
    (P := fun u => u.watchers.get? id = s.store.watchers.get? id) ?_ rfl
  rintro u c ⟨-, rfl⟩ hu
  rw [Store.row_apply h, hu]

/-- Books that are about nothing in a row leave it as it is. -/
theorem row_keep (w : Watcher) {bs : List Book} (h : ∀ b ∈ bs, b.change.touches id = false)
    (s : System) :
    (keep outage w bs s).1.store.watchers.get? id = s.store.watchers.get? id := by
  induction bs generalizing s with
  | nil => rfl
  | cons b bs ih =>
    have hb := s.row_keepBooks outage w b.operation (h b List.mem_cons_self)
    rw [keep_cons]
    split
    · rw [ih fun b' hb' => h b' (List.mem_cons_of_mem _ hb'), hb]
    · exact hb

theorem touches_cursors (cs : List Cursor) : ∀ b ∈ cs.map Book.cursor,
    b.change.touches id = false := by
  intro b hb
  obtain ⟨c, -, rfl⟩ := List.mem_map.1 hb
  rfl

theorem row_settle_of_ne (hne : m.watcher.id ≠ id) :
    (s.settle outage now m outcome).1.store.watchers.get? id = s.store.watchers.get? id := by
  obtain ⟨cs, hdue⟩ := due_eq now m outcome
  rw [settle, hdue, row_keep, counted_store]
  refine List.forall_mem_cons.2 ⟨?_, touches_cursors cs⟩
  cases outcome <;> exact beq_eq_false_iff_ne.2 hne

/-- The row of the watcher takes up the ending, and keeps all else that it says. -/
theorem row_settle {w : Watcher}
    (hworks : outage (Ending.book ⟨now, outcome⟩ m.watcher.id).call = none)
    (hw : s.store.watchers.get? m.watcher.id = some (.intact w)) (hroom : w.stats.HasRoom) :
    (s.settle outage now m outcome).1.store.watchers.get? m.watcher.id =
      some (.intact { w with stats := w.stats.after ⟨now, outcome⟩ }) := by
  obtain ⟨cs, hdue⟩ := due_eq now m outcome
  rw [← s.counted_store m outcome] at hw
  have hresult := Store.result_book (a := (s.counted m outcome).access outage) hworks hw hroom
  rw [settle, hdue, keep_cons, keepBooks, hresult, if_pos rfl, row_keep _ (touches_cursors cs)]
  exact Table.get?_put_self ..

end System

/-! ### One move -/

namespace Move

/-- The move writes to the row of a watcher directly, or an action ends while a call fails that is
to record outcomes there. -/
def disturbs (id : String) : Move → Bool
  | .change c => c.touches id
  | .finish outage .. | .giveUp outage .. =>
    (outage (.recordFire id)).isSome || (outage (.recordError id)).isSome
  | _ => false

end Move

namespace System

/-- The ending as one of the watcher under an id, if the flight is one of its. -/
def endingOf (s : System) (id : String) (index : Nat) (ending : Ending) : Option Ending :=
  (s.engine.dispatch.flights[index]?.filter fun f => f.message.watcher.id == id).map fun _ => ending

/-- The ending of an action of the watcher under an id, if the move is one. A flight without an
invoker ends as a failure. -/
def ending? (s : System) (id : String) : Move → Option Ending
  | .finish _ now index outcome => s.endingOf id index ⟨now, outcome⟩
  | .giveUp _ now index => s.endingOf id index ⟨now, .error (.dispatch .noInvoker)⟩
  | _ => none

variable {s t : System} {m : Move} {e : Effect} {id : String}

theorem endingOf_eq {index : Nat} {flight : Flight}
    (h : s.engine.dispatch.flights[index]? = some flight) (ending : Ending) :
    s.endingOf id index ending =
      if flight.message.watcher.id = id then some ending else none := by
  rw [endingOf, h, Option.filter_some]
  by_cases hid : flight.message.watcher.id = id <;> simp [hid]

/-- The past of a watcher takes up the ending of a flight that is one of its. -/
theorem history?_finish (outage : Outage) (now : Moment) (outcome : Except Fault Unit) {index : Nat}
    {flight : Flight} {p : History}
    (hf : s.engine.dispatch.flights[index]? = some flight)
    (hworks : ((outage (.recordFire id)).isSome || (outage (.recordError id)).isSome) = false)
    (hp : s.store.history? id = some p)
    (hroom : (s.endingOf id index ⟨now, outcome⟩).isSome → p.stats.HasRoom) :
    (s.finish outage now index flight.message outcome).1.store.history? id = some { p with
      stats := ((s.endingOf id index ⟨now, outcome⟩).map p.stats.after).getD p.stats } := by
  obtain ⟨w, hw, rfl⟩ := Store.history?_eq_some.1 hp
  refine Store.history?_eq_some.2 ?_
  rw [endingOf_eq hf] at hroom ⊢
  by_cases hid : flight.message.watcher.id = id
  · subst hid
    rw [if_pos rfl] at hroom ⊢
    obtain ⟨hfire, herror⟩ : outage (.recordFire flight.message.watcher.id) = none ∧
        outage (.recordError flight.message.watcher.id) = none := by simpa using hworks
    refine ⟨_, row_settle ?_ hw (hroom rfl), rfl⟩
    cases outcome with
    | ok u => exact hfire
    | error f => exact herror
  · rw [if_neg hid]
    exact ⟨w, (row_settle_of_ne hid).trans hw, rfl⟩

/-- A move that is neither a compilation nor the end of an action, and does not disturb the row,
leaves it as it is or removes it. -/
theorem row_step (h : s.step? m = some (t, e))
    (hkind : ∀ c, m.Makes e c → c.touches id = false ∨ ∃ stem, c = .deleteByStem stem) :
    t.store.watchers.get? id = s.store.watchers.get? id ∨ t.store.watchers.get? id = none := by
  refine (step_evolves h).keeps (P := fun u => u.watchers.get? id = s.store.watchers.get? id ∨
    u.watchers.get? id = none) (fun u c hc hu => ?_) (.inl rfl)
  rcases hkind c hc with hc | ⟨stem, rfl⟩
  · rwa [Store.row_apply hc]
  · rw [Store.apply, Store.get?_deleteByStem]
    split
    · exact .inr rfl
    · exact hu

/-- A watcher that is stored before and after a move has the past it had, with the ending added if
the move ends an action of the watcher. -/
theorem history?_step (hs : s.store.Sound) (h : s.step? m = some (t, e))
    (hm : m.disturbs id = false) {p q : History} (hp : s.store.history? id = some p)
    (hroom : (s.ending? id m).isSome → p.stats.HasRoom) (hq : t.store.history? id = some q) :
    q = { p with stats := ((s.ending? id m).map p.stats.after).getD p.stats } := by
  -- most moves do not write to the row; of those that may remove it, this one has not
  have hquiet : (∀ c, m.Makes e c → c.touches id = false ∨ ∃ stem, c = .deleteByStem stem) →
      q = p := by
    intro hkind
    rcases row_step h hkind with hrow | hrow
    · rw [Store.history?_of_row_eq hrow, hp] at hq
      exact (Option.some.inj hq).symm
    · rw [Store.history?, hrow] at hq
      cases hq
  cases step_of_step? h with
  | compile outage resolver config now c =>
    rw [history?_compile hs hq, hp]
    rfl
  | finish outage now index outcome hf =>
    have hafter := history?_finish outage now outcome hf hm hp hroom
    exact Option.some.inj (hq.symm.trans hafter)
  | giveUp outage now index hf =>
    have hafter := history?_finish outage now _ hf hm hp hroom
    exact Option.some.inj (hq.symm.trans hafter)
  | change c =>
    refine hquiet fun d hd => ?_
    cases hd
    exact .inl hm
  | cleanUp outage composition =>
    refine hquiet fun d hd => ?_
    cases hd with
    | removeWatchers => exact .inr ⟨_, rfl⟩
    | removeCursors => exact .inl rfl
  | start | stop | reload | arrive | ignore | visit | wake | proceed | invoke =>
    refine hquiet fun d hd => ?_
    cases hd

end System

/-! ### Runs -/

/-- A system, and the endings of a watcher's actions that there have been, the latest first. -/
structure Recorded where
  system : System
  endings : List Ending

/-- The stored watcher says of its past what the endings come to, the latest of which comes first. -/
structure Watcher.Remembers (w : Watcher) (es : List Ending) (since : Moment) : Prop where
  fires : w.stats.fires = es.countP Ending.succeeded
  errors : w.stats.errors = es.countP Ending.failed
  lastError : w.stats.lastError = es.findSome? Ending.error?
  lastFiredAt : w.stats.lastFiredAt = es.findSome? Ending.firedAt?
  fired : w.stats.lastFiredAt.isSome = true ↔ 0 < w.stats.fires
  createdAt : w.createdAt = since

theorem Watcher.remembers_of {w : Watcher} {es : List Ending} {since : Moment}
    (h : w.history = ⟨.of es, since⟩) : w.Remembers es since := by
  obtain ⟨hstats, hcreated⟩ := History.mk.inj h
  refine ⟨by rw [hstats]; rfl, by rw [hstats]; rfl, by rw [hstats]; rfl, by rw [hstats]; rfl, ?_,
    hcreated⟩
  rw [hstats]
  show (es.findSome? Ending.firedAt?).isSome = true ↔ 0 < es.countP Ending.succeeded
  rw [List.findSome?_isSome_iff, List.countP_pos_iff]
  refine exists_congr fun e => and_congr_right fun _ => ?_
  obtain ⟨at_, outcome⟩ := e
  cases outcome <;> simp [Ending.firedAt?, Ending.succeeded, Except.isOk, Except.toBool]

namespace Recorded

/-- One more move that does not disturb the row of the watcher and leaves a watcher there. -/
def step? (id : String) (x : Recorded) (m : Move) : Option Recorded :=
  if m.disturbs id then none
  else ((x.system.step? m).filter fun y => (y.1.store.rule? id).isSome).map fun y =>
    ⟨y.1, (x.system.ending? id m).toList ++ x.endings⟩

def run? (id : String) (x : Recorded) (ms : List Move) : Option Recorded := ms.foldlM (step? id) x

/-- As long as they can be counted, the endings are what the row says of the past. -/
structure Accurate (id : String) (since : Moment) (x : Recorded) : Prop where
  reachable : x.system.store.Reachable
  past : x.endings.length ≤ Statistics.limit →
    x.system.store.history? id = some ⟨.of x.endings, since⟩

variable {id : String} {since : Moment} {x y : Recorded} {m : Move} {ms : List Move}

theorem Accurate.step (hx : x.Accurate id since) (h : x.step? id m = some y) :
    y.Accurate id since := by
  unfold step? at h
  split at h
  · cases h
  next hm =>
  obtain ⟨⟨t, e⟩, hmove, rfl⟩ := Option.map_eq_some_iff.1 h
  obtain ⟨hmove, hthere⟩ := Option.filter_eq_some_iff.1 hmove
  refine ⟨System.reachable_step hmove hx.reachable, fun hcount => ?_⟩
  dsimp only at hcount hthere ⊢
  rw [List.length_append] at hcount
  have hp := hx.past (by omega)
  obtain ⟨r, hr⟩ := Option.isSome_iff_exists.1 hthere
  obtain ⟨w, hw, -⟩ := Store.rule?_eq_some.1 hr
  have hq := Store.history?_eq_some.2 ⟨w, hw, rfl⟩
  -- there is room for the ending, if there is one, since it has been counted already
  have hstep := System.history?_step hx.reachable.sound hmove (Bool.not_eq_true _ ▸ hm) hp ?_ hq
  · rw [hq, hstep]
    cases x.system.ending? id m with
    | none => rfl
    | some ending => rw [Option.toList_some, List.singleton_append, Statistics.of_cons]; rfl
  · intro hending
    obtain ⟨ending, hending⟩ := Option.isSome_iff_exists.1 hending
    rw [hending, Option.toList_some, List.length_singleton] at hcount
    exact Statistics.hasRoom_of (by omega)

theorem Accurate.run (hx : x.Accurate id since) (h : x.run? id ms = some y) :
    y.Accurate id since :=
  foldlM_keeps (P := Accurate id since) (fun _ hstep hx => hx.step hstep) hx h

/-- Once a compilation has created the row of a watcher, compilations and the ends of actions, at
most so many as can be counted, come in any order. As long as the watcher stays compiled and nobody
else writes to its row, what the row says is what the endings come to. To record an outcome changes no
rule. -/
theorem statistics_survive {s t : System} {outage : Outage} {resolver : Resolver}
    {config : CompilerConfig} {now : Moment} {c : Composition} {e : Effect}
    (hs : s.store.Reachable)
    (hcompile : s.step? (.compile outage resolver config now c) = some (t, e))
    (hnew : s.store.rule? id = none) (hthere : (t.store.rule? id).isSome)
    (hrun : run? id ⟨t, []⟩ ms = some x) (hcount : x.endings.length < 2 ^ 64) :
    (∃ w, x.system.store.get? id = .ok (some w) ∧ w.Remembers x.endings now) ∧
      ∀ (a : Access) (key message : String) (at_ : Moment) (u : Store),
        (a.recordFire key at_).result = .ok u ∨ (a.recordError key message).result = .ok u →
          ∀ k, u.rule? k = a.store.rule? k := by
  refine ⟨?_, fun a key message at_ u hu k => ?_⟩
  · obtain ⟨r, hr⟩ := Option.isSome_iff_exists.1 hthere
    obtain ⟨w, hw, -⟩ := Store.rule?_eq_some.1 hr
    have hbefore : s.store.history? id = none := by
      rw [Store.rule?, Option.map_eq_none_iff] at hnew
      rw [Store.history?, hnew, Option.map_none]
    have hpast := Store.history?_eq_some.2 ⟨w, hw, rfl⟩
    have ht : t = (s.compile outage resolver config now c).1 :=
      (Prod.mk.inj (Option.some.inj hcompile)).1.symm
    rw [ht] at hpast
    have hcreated := System.history?_compile hs.sound hpast
    rw [hbefore, Option.getD_none] at hcreated
    have hfirst : Accurate id now ⟨t, []⟩ :=
      ⟨System.reachable_step hcompile hs, fun _ => ht ▸ hpast.trans (congrArg some hcreated)⟩
    have hlast := (hfirst.run hrun).past (Nat.le_pred_of_lt hcount)
    obtain ⟨v, hv, hpast⟩ := Store.history?_eq_some.1 hlast
    exact ⟨v, by rw [Store.get?, hv], Watcher.remembers_of hpast⟩
  · rcases hu with hu | hu
    · have hrecord : a.store.recordFire key at_ = .ok u := (Access.attempt_result.1 hu).2
      exact Store.rule?_record hrecord k
    · have hrecord : a.store.recordError key message = .ok u := (Access.attempt_result.1 hu).2
      exact Store.rule?_record hrecord k

end Recorded

/-! The watcher of an edge fires once, is compiled anew with another cap, and then fails. -/

namespace Sample

/-- What a compilation makes of the edge. -/
def melded (config : CompilerConfig) (now : Moment) : Watcher :=
  let w := Plan.edgeWatcher ⟨"c", config, now⟩ ⟨"a", "p", "right", 0⟩ .executeGlyph (some "py")
  { w with rule := { w.rule with similarity := some ⟨"a", .one, none⟩ } }

/-- The watcher as the second compilation leaves it active. -/
def remelded : Watcher :=
  ActiveSet.gate { melded ⟨7⟩ ⟨6, 0⟩ with stats := ⟨1, some ⟨5, 0⟩, 0, none⟩, createdAt := ⟨1, 0⟩ }
    default

/-- A match of the watcher gets its permit. -/
def launch (w : Watcher) (attestation : String) : List Move :=
  [.visit ⟨none, some fun _ _ _ _ => .ok true⟩ 0 (.bare attestation default) w, .proceed, .proceed]

def fired : List Move :=
  [.start .none true, .wake] ++ launch (melded .default ⟨1, 0⟩) "a" ++
    [.invoke 0 0, .finish .none ⟨5, 0⟩ 0 (.ok ()), .compile .none resolver ⟨7⟩ ⟨6, 0⟩ composition]

def recompiled : List Move := fired ++ launch remelded "b" ++ [.giveUp .none ⟨8, 0⟩ 0]

end Sample

namespace Recorded

/-- In the sample the cap is the new one, and what the row says of the past covers both actions. -/
theorem sample_survives : ∃ t x w,
    (Sample.system .one).step? (.compile .none Sample.resolver .default ⟨1, 0⟩ Sample.composition)
      = some (t, .none) ∧
    run? "meld-edge/c/a/p" ⟨t, []⟩ Sample.recompiled = some x ∧
    x.system.store.get? "meld-edge/c/a/p" = .ok (some w) ∧ w.rule.maxFires = 7 ∧
    w.stats = ⟨1, some ⟨5, 0⟩, 1, some "No action invoker configured"⟩ ∧ w.createdAt = ⟨1, 0⟩ := by
  let t := ((Sample.system .one).compile .none Sample.resolver .default ⟨1, 0⟩ Sample.composition).1
  have hrun : (run? "meld-edge/c/a/p" ⟨t, []⟩ Sample.recompiled).any (fun x =>
      (x.system.store.rule? "meld-edge/c/a/p").map (·.maxFires) = some 7 ∧
        x.endings.length = 2 ∧ Statistics.of x.endings =
          ⟨1, some ⟨5, 0⟩, 1, some "No action invoker configured"⟩) = true := by
    decide +kernel
  obtain ⟨x, hx, hfacts⟩ := (Option.any_eq_true _ _).1 hrun
  obtain ⟨hcap, hlength, hstats⟩ := of_decide_eq_true hfacts
  obtain ⟨⟨w, hw, hremembers⟩, -⟩ := statistics_survive (s := Sample.system .one) (t := t)
    ⟨_, rfl⟩ rfl (by decide +kernel) (by decide +kernel) hx (by rw [hlength]; decide)
  refine ⟨t, x, w, rfl, hx, hw, ?_, ?_, hremembers.createdAt⟩
  · obtain ⟨rule, hrule, hcap⟩ := Option.map_eq_some_iff.1 hcap
    obtain ⟨v, hv, rfl⟩ := Store.rule?_eq_some.1 hrule
    rw [Store.get?, hv] at hw
    rwa [← Option.some.inj (Except.ok.inj hw)]
  · rw [← hstats]
    show Statistics.mk w.stats.fires w.stats.lastFiredAt w.stats.errors w.stats.lastError = _
    rw [hremembers.fires, hremembers.lastFiredAt, hremembers.errors, hremembers.lastError]
    rfl

end Recorded

end Watchtower
