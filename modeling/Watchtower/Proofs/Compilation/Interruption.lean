import Mathlib.Tactic.Common
import Watchtower.Proofs.ActiveSet
import Watchtower.Proofs.Compilation.Convergence

/-!
Compilations that a failing write ends.

A compilation that ends in the middle of its writes has done some of them, and neither the engine nor
anything outside the composition's stem has noticed. What it has done it would have done anyway, so
compiling again does the rest and comes to the same rules (`System.compile_repairs`). This holds
whatever the order in which stale watchers are removed (`RemovalOrder`).
-/

namespace Watchtower

/-- An order in which stale watchers are removed. -/
structure RemovalOrder where
  arrange : List String → List String
  perm : ∀ ids, (arrange ids).Perm ids

namespace RemovalOrder

/-- Stale watchers are removed in the order of their ids. -/
def ascending : RemovalOrder := ⟨id, List.Perm.refl⟩

end RemovalOrder

namespace Write

variable {s : Store} {desired : Table Watcher} {now : Moment} {c : String}

/-- The writes of a difference with the removals in some order. -/
def planBy (order : RemovalOrder) (existing desired : Table Watcher) (now : Moment) : List Write :=
  (order.arrange (stale existing desired)).map .remove
    ++ desired.values.filterMap (of? existing now)

theorem planBy_perm (order : RemovalOrder) (existing desired : Table Watcher) (now : Moment) :
    (planBy order existing desired now).Perm (plan existing desired now) :=
  ((order.perm _).map _).append_right _

/-- The writes that bring what is stored for a composition to what is planned for it, the removals
in some order. -/
abbrev towardBy (order : RemovalOrder) (s : Store) (c : String) (desired : Table Watcher)
    (now : Moment) : List Write :=
  planBy order (System.byId (s.listByStem (Naming.edgeStem c))) desired now

theorem towardBy_perm (order : RemovalOrder) (s : Store) (c : String) (desired : Table Watcher)
    (now : Moment) : (towardBy order s c desired now).Perm (toward s c desired now) :=
  planBy_perm ..

/-- In any order the writes lead to one store. -/
theorem foldl_towardBy (order : RemovalOrder) (hd : Plan.Owned c desired) :
    (towardBy order s c desired now).foldl apply s = (toward s c desired now).foldl apply s :=
  (foldl_apply_perm (towardBy_perm ..).symm s (plan_pairwise hd)).symm

/-- No write is refused where all planned watchers are fit to be stored. -/
theorem fault?_of_mem_towardBy {order : RemovalOrder} {x : Plan.Context}
    (hfresh : Plan.AllFresh x desired) {u : Write}
    (hu : u ∈ towardBy order s x.composition desired now) : u.fault? = none :=
  fault?_of_mem_plan hfresh.owned (fun k v hv => (hfresh k v hv).2.fit)
    ((towardBy_perm ..).mem_iff.1 hu)

theorem towardBy_pairwise (order : RemovalOrder) (hd : Plan.Owned c desired) :
    (towardBy order s c desired now).Pairwise fun v w => v.id ≠ w.id :=
  (towardBy_perm ..).symm.pairwise (plan_pairwise hd) fun h => Ne.symm h

end Write

namespace System

variable {s t : System} {outage : Outage} {resolver : Resolver} {config : CompilerConfig}
  {now : Moment} {c : Composition} {plan : Plan}

/-! ### Compiling with the removals in some order -/

/-- Carries out the writes of a compilation, and reloads if they change something. -/
def carryOut (s : System) (outage : Outage) (now : Moment) (existing : List Watcher) (plan : Plan)
    (writes : List Write) : System × Except Fault Compiled :=
  let commit := Commit.run outage s.store writes
  let s := { s with store := commit.store, journal := s.journal ++ commit.events }
  match commit.fault with
  | some f => (s, .error (.store f))
  | none =>
    let report := reportOf existing plan now commit
    let s := { s with metrics := countCompiled s.metrics report }
    let (s, report) := s.reloadIfChanged outage report
    (s.note [.compiled report.created report.replaced report.unchanged report.deleted
      report.skipped.length], .ok ⟨report, plan.lookups⟩)

/-- Compiles a composition with the removals in some order. -/
def compileBy (order : RemovalOrder) (s : System) (outage : Outage) (resolver : Resolver)
    (config : CompilerConfig) (now : Moment) (c : Composition) : System × Except Fault Compiled :=
  if !Naming.isSegment c.id then (s, .error (unfit c.id))
  else
    let prepared := s.prepare outage resolver ⟨c.id, config, now⟩ c
    let s := s.note prepared.events
    match prepared.result with
    | .error f => (s, .error (.store f))
    | .ok (existing, plan) =>
      s.carryOut outage now existing plan (Write.planBy order (byId existing) plan.desired now)

/-- A compilation is one with the removals in the order of the ids. -/
theorem compile_eq_compileBy (s : System) (outage : Outage) (resolver : Resolver)
    (config : CompilerConfig) (now : Moment) (c : Composition) :
    s.compile outage resolver config now c =
      s.compileBy .ascending outage resolver config now c := rfl

/-- Once it has planned, a compilation carries out its writes. -/
theorem compileBy_of_make (order : RemovalOrder) (hid : Naming.isSegment c.id = true)
    (hlist : outage (.listByStem (Naming.edgeStem c.id)) = none)
    (hplan : (Plan.make (s.access outage) resolver ⟨c.id, config, now⟩ c).result = .ok plan) :
    s.compileBy order outage resolver config now c =
      (s.note (s.prepare outage resolver ⟨c.id, config, now⟩ c).events).carryOut outage now
        (s.store.listByStem (Naming.edgeStem c.id)) plan
        (Write.towardBy order s.store c.id plan.desired now) := by
  have hprepared := prepare_eq_ok.2 ⟨hlist, rfl, hplan⟩
  unfold compileBy
  rw [if_neg (by simp [hid])]
  dsimp only
  rw [hprepared]

theorem carryOut_of_fault {existing : List Watcher} {writes : List Write} {f : StoreFault}
    (h : (Commit.run outage s.store writes).fault = some f) :
    ∃ journal, s.carryOut outage now existing plan writes =
      (⟨(Commit.run outage s.store writes).store, s.engine, s.metrics, journal⟩,
        .error (.store f)) := by
  unfold carryOut
  dsimp only
  rw [h]
  exact ⟨_, rfl⟩

/-- The report of a commit that has performed anything is one of changes. -/
theorem changed_reportOf {commit : Commit} (h : commit.performed ≠ []) (existing : List Watcher)
    (plan : Plan) (now : Moment) : (reportOf existing plan now commit).changed = true := by
  have hlen := List.length_pos_iff.2 h
  rw [← commit.touched_eq] at hlen
  exact decide_eq_true hlen

/-- After changes a reload that works is noted in the report. -/
theorem reloadIfChanged_of_changed {r : CompileReport} (h : r.changed = true) :
    (s.reloadIfChanged .none r).2 = { r with reloaded := true } := by
  obtain ⟨t, ht⟩ : ∃ t, s.reload .none = (t, .ok ()) := reload_of_works rfl fun _ _ _ => rfl
  rw [reloadIfChanged, if_pos h, ht]

/-- Writes that all work are carried out, and if they change something the engine reloads. -/
theorem carryOut_of_works {existing : List Watcher} {writes : List Write}
    (h : (Commit.run .none s.store writes).fault = none) :
    ∃ t r, s.carryOut .none now existing plan writes = (t, .ok r) ∧
      t.store = (Commit.run .none s.store writes).store ∧
      ((Commit.run .none s.store writes).performed ≠ [] →
        r.report.changed = true ∧ r.report.reloaded = true) := by
  unfold carryOut
  dsimp only
  rw [h]
  refine ⟨_, _, rfl, by simp [note], fun hperformed => ?_⟩
  have hchanged := changed_reportOf hperformed existing plan now
  rw [reloadIfChanged_of_changed hchanged]
  exact ⟨hchanged, rfl⟩

/-- A compilation over a store that works carries out all its writes. -/
theorem compileBy_of_works (order : RemovalOrder) (hs : s.store.Sound)
    (hid : Naming.isSegment c.id = true)
    (hplan : (Plan.make (s.access .none) resolver ⟨c.id, config, now⟩ c).result = .ok plan) :
    ∃ t r, s.compileBy order .none resolver config now c = (t, .ok r) ∧
      t.store = (Write.toward s.store c.id plan.desired now).foldl Write.apply s.store ∧
      (Write.toward s.store c.id plan.desired now ≠ [] →
        r.report.changed = true ∧ r.report.reloaded = true) := by
  have hfresh := Plan.make_fresh resolver c plan hplan
  have hd : Plan.Owned c.id plan.desired := hfresh.owned
  have hperm := Write.towardBy_perm order s.store c.id plan.desired now
  obtain ⟨hfault, hstore, hperformed⟩ := Commit.run_of_works (o := .none) s.store
    (Write.towardBy order s.store c.id plan.desired now)
    (fun w hw => Write.fault?_of_mem_towardBy hfresh hw)
    (Write.towardBy_pairwise order hd)
    fun w hw => Write.changes_of_mem_toward hs hd (hperm.mem_iff.1 hw)
  rw [compileBy_of_make order hid rfl hplan]
  obtain ⟨t, r, ht, hstore', hreport⟩ := carryOut_of_works (s := s.note _) hfault
  refine ⟨t, r, ht, ?_, fun hne => hreport ?_⟩
  · rw [← Write.foldl_towardBy order hd, ← hstore]
    exact hstore'
  · rw [show (Commit.run .none (s.note _).store _).performed = _ from hperformed]
    exact fun hnil => hne (List.perm_nil.1 (hnil ▸ hperm.symm))

/-! ### After a failure -/

/-- What a compilation has done that a failing write has ended, where all its writes together would
have led to a whole store. -/
structure Aborted (s t : System) (c : Composition) (plan : Plan) (whole : Store) : Prop where
  /-- Nothing has been reloaded. -/
  engine : t.engine = s.engine
  metrics : t.metrics = s.metrics
  cursors : t.store.cursors = s.store.cursors
  outside : ∀ k, Naming.startsWith k (Naming.edgeStem c.id) = false →
    t.store.watchers.get? k = s.store.watchers.get? k
  /-- Under the stem a row is as it was, or it is the planned one in full, or it was stale and is
  gone. -/
  inside : ∀ k, Naming.startsWith k (Naming.edgeStem c.id) = true →
    t.store.watchers.get? k = s.store.watchers.get? k ∨
    (∃ v w, t.store.watchers.get? k = some (.intact v) ∧
      whole.watchers.get? k = some (.intact v) ∧ plan.desired.get? k = some w ∧ v.rule = w.rule) ∨
    (t.store.watchers.get? k = none ∧ plan.desired.get? k = none ∧
      ∃ v, s.store.watchers.get? k = some (.intact v))

variable {order : RemovalOrder} {done rest : List Write} {w : Write} {f : StoreFault}

/-- What some of the writes of a difference have done. -/
theorem aborted_of_done (hs : s.store.Sound) (hd : Plan.Owned c.id plan.desired)
    (hdone : done.Sublist (Write.towardBy order s.store c.id plan.desired now))
    (journal : List Event) :
    Aborted s ⟨done.foldl Write.apply s.store, s.engine, s.metrics, journal⟩ c plan
      ((Write.toward s.store c.id plan.desired now).foldl Write.apply s.store) := by
  have hmem : ∀ v ∈ done, v ∈ Write.toward s.store c.id plan.desired now := fun v hv =>
    (Write.towardBy_perm ..).mem_iff.1 (hdone.subset hv)
  refine ⟨rfl, rfl, Write.cursors_foldl .., fun k hk => ?_, fun k _ => ?_⟩
  · refine Write.get?_foldl_of_forall_ne s.store fun v hv e => ?_
    have hstem := Write.startsWith_of_mem_plan hd
      (fun hv => ((get?_byId_eq_some hs).1 hv).2) (hmem v hv)
    rw [e, hk] at hstem
    cases hstem
  · by_cases hin : ∃ v ∈ done, v.id = k
    · obtain ⟨u, hu, rfl⟩ := hin
      have hrow := Write.get?_foldl_of_mem s.store
        ((Write.towardBy_pairwise order hd).sublist hdone) hu
      have hwhole := Write.get?_foldl_of_mem s.store (Write.plan_pairwise hd) (hmem u hu)
      rcases (Write.mem_plan hd).1 (hmem u hu) with ⟨j, hj, rfl⟩ | ⟨d, hdu, hof⟩
      · obtain ⟨⟨v, hv⟩, hnone⟩ := Write.mem_stale.1 hj
        exact .inr (.inr ⟨hrow, hnone, v, ((get?_byId_eq_some hs).1 hv).1⟩)
      · obtain ⟨v, hv, -, -, hrule⟩ := Write.of?_spec hof
        exact .inr (.inl ⟨v, d, hrow.trans hv, hwhole.trans hv, hdu, hrule⟩)
    · exact .inl (Write.get?_foldl_of_forall_ne s.store fun v hv e => hin ⟨v, hv, e⟩)

/-- What has been written in the first attempt, the second one finds settled; the rest it does. -/
theorem rule?_again (hs : s.store.Sound) (ht : t.store.Sound) {plan' : Plan} {now' : Moment}
    (hd : Plan.Owned c.id plan.desired) (hd' : Plan.Owned c.id plan'.desired)
    (hrules : plan'.desired.map (·.rule) = plan.desired.map (·.rule))
    (habort : Aborted s t c plan
      ((Write.toward s.store c.id plan.desired now).foldl Write.apply s.store))
    {k : String} (hk : Naming.startsWith k (Naming.edgeStem c.id) = true) :
    ((Write.toward t.store c.id plan'.desired now').foldl Write.apply t.store).rule? k =
      ((Write.toward s.store c.id plan.desired now).foldl Write.apply s.store).rule? k := by
  have hrule : (plan'.desired.get? k).map (·.rule) = (plan.desired.get? k).map (·.rule) := by
    rw [← Table.get?_map, ← Table.get?_map, hrules]
  rw [Write.rule?_toward ht hd' hk, hrule, Write.rule?_toward hs hd hk]
  rcases habort.inside k hk with hold | ⟨v, -, hv, hwhole, -⟩ | ⟨-, hnone, -⟩
  · rw [Store.rule?, hold, ← Store.rule?]
  · have hdone := Store.rule?_eq_some.2 ⟨v, hv, rfl⟩
    rw [← Store.rule?_eq_some.2 ⟨v, hwhole, rfl⟩, Write.rule?_toward hs hd hk] at hdone
    rw [hdone]
    cases (plan.desired.get? k).map (·.rule) with
    | none => rfl
    | some r => exact congrArg some (Rule.settled_settled ..)
  · rw [hnone]
    rfl

/-- Where a compilation has been ended before some write, something is left to do. -/
theorem toward_ne_nil_again (hs : s.store.Sound) (ht : t.store.Sound) {plan' : Plan} (now' : Moment)
    (hd : Plan.Owned c.id plan.desired) (hd' : Plan.Owned c.id plan'.desired)
    (hrules : plan'.desired.map (·.rule) = plan.desired.map (·.rule))
    (hw : w ∈ Write.toward s.store c.id plan.desired now)
    (hrow : t.store.watchers.get? w.id = s.store.watchers.get? w.id) :
    Write.toward t.store c.id plan'.desired now' ≠ [] := by
  have hstem : Naming.startsWith w.id (Naming.edgeStem c.id) = true :=
    Write.startsWith_of_mem_plan hd (fun hv => ((get?_byId_eq_some hs).1 hv).2) hw
  have hrule : (plan'.desired.get? w.id).map (·.rule) = (plan.desired.get? w.id).map (·.rule) := by
    rw [← Table.get?_map, ← Table.get?_map, hrules]
  have hpending := (Write.exists_mem_toward_iff now hs hd hstem).1 ⟨w, hw, rfl⟩
  rw [← hrule, Store.rule?, ← hrow, ← Store.rule?] at hpending
  obtain ⟨u, hu, -⟩ := (Write.exists_mem_toward_iff now' ht hd' hstem).2 hpending
  exact List.ne_nil_of_mem hu

/-- The first write that fails ends the compilation, and what was written before it stays. -/
theorem compileBy_of_failure (hid : Naming.isSegment c.id = true)
    (hlist : outage (.listByStem (Naming.edgeStem c.id)) = none)
    (hplan : (Plan.make (s.access outage) resolver ⟨c.id, config, now⟩ c).result = .ok plan)
    (hwrites : Write.towardBy order s.store c.id plan.desired now = done ++ w :: rest)
    (hdone : ∀ v ∈ done, outage v.call = none) (hfails : outage w.call = some f) :
    ∃ journal, s.compileBy order outage resolver config now c =
      (⟨done.foldl Write.apply s.store, s.engine, s.metrics, journal⟩, .error (.store f)) := by
  have hfresh := Plan.make_fresh resolver c plan hplan
  have hworks : ∀ v ∈ done, (outage v.call).or v.fault? = none := by
    intro v hv
    rw [hdone v hv, Option.none_or]
    exact Write.fault?_of_mem_towardBy hfresh (hwrites ▸ List.mem_append_left _ hv)
  have hw : (outage w.call).or w.fault? = some f := by rw [hfails, Option.some_or]
  obtain ⟨hfault, hstore⟩ := Commit.run_of_fault s.store rest hworks hw
  rw [compileBy_of_make order hid hlist hplan, hwrites, ← hstore]
  exact carryOut_of_fault (s := s.note _) hfault

/-- A compilation that a failing write ends says so, and has done nothing but writes it was to do
anyway: neither the engine nor anything outside the composition's stem has changed. Compiling again
over a store that works ends well, does what is left and reloads, and leaves the rules that a
compilation without the failure would have left. -/
theorem compile_repairs (hs : s.store.Reachable) (hid : Naming.isSegment c.id = true)
    {existing : List Watcher}
    (hprepared : (s.prepare outage resolver ⟨c.id, config, now⟩ c).result = .ok (existing, plan))
    (order : RemovalOrder)
    (hwrites : Write.planBy order (byId existing) plan.desired now = done ++ w :: rest)
    (hdone : ∀ v ∈ done, outage v.call = none) (hfails : outage w.call = some f) :
    ∃ t whole, s.compileBy order outage resolver config now c = (t, .error (.store f)) ∧
      (∀ order', ∃ u r, s.compileBy order' .none resolver config now c = (u, .ok r) ∧
        u.store = whole) ∧
      Aborted s t c plan whole ∧
      ∀ order' now', ∃ u r, t.compileBy order' .none resolver config now' c = (u, .ok r) ∧
        r.report.changed = true ∧ r.report.reloaded = true ∧
        ∀ k, Naming.startsWith k (Naming.edgeStem c.id) = true →
          u.store.rule? k = whole.rule? k := by
  obtain ⟨hlist, rfl, hplan⟩ := prepare_eq_ok.1 hprepared
  have hwrites : Write.towardBy order s.store c.id plan.desired now = done ++ w :: rest := hwrites
  have hfresh := Plan.make_fresh resolver c plan hplan
  have hd : Plan.Owned c.id plan.desired := hfresh.owned
  have hpart : done.Sublist (Write.towardBy order s.store c.id plan.desired now) := by
    rw [hwrites]
    exact List.sublist_append_left ..
  obtain ⟨journal, hfirst⟩ := compileBy_of_failure hid hlist hplan hwrites hdone hfails
  have habort := aborted_of_done hs.sound hd hpart journal
  refine ⟨_, _, hfirst, fun order' => ?_, habort, fun order' now' => ?_⟩
  · -- without the failure the same plan is made
    obtain ⟨plan', hplan', hrules⟩ := make_agrees hs.sound hs.sound rfl .none now
      (fun _ _ => rfl) hplan
    have hsame : plan'.desired = plan.desired :=
      hfresh.ext (Plan.make_fresh resolver c plan' hplan') hrules
    obtain ⟨u, r, hu, hstore, -⟩ := compileBy_of_works order' hs.sound hid hplan'
    exact ⟨u, r, hu, hsame ▸ hstore⟩
  · have hreach : (done.foldl Write.apply s.store).Reachable :=
      Write.reachable_foldl done hs fun v hv =>
        Write.fault?_of_mem_towardBy hfresh (hpart.subset hv)
    obtain ⟨plan', hplan', hrules⟩ := make_agrees hs.sound hreach.sound
      (Store.rows_outside_eq habort.outside).symm .none now' (fun _ _ => rfl) hplan
    have hd' : Plan.Owned c.id plan'.desired := Plan.make_ensures resolver c plan' hplan'
    obtain ⟨u, r, hu, hstore, hreport⟩ := compileBy_of_works order' hreach.sound hid hplan'
    -- the write that failed is about an id that no other write is about
    have hrow : (done.foldl Write.apply s.store).watchers.get? w.id = s.store.watchers.get? w.id := by
      have hp : (done ++ w :: rest).Pairwise fun v w => v.id ≠ w.id := by
        rw [← hwrites]
        exact Write.towardBy_pairwise order hd
      exact Write.get?_foldl_of_forall_ne s.store fun v hv =>
        (List.pairwise_append.1 hp).2.2 v hv w List.mem_cons_self
    have hw : w ∈ Write.toward s.store c.id plan.desired now := by
      rw [← (Write.towardBy_perm order ..).mem_iff, hwrites]
      exact List.mem_append_right _ List.mem_cons_self
    obtain ⟨hchanged, hreloaded⟩ :=
      hreport (toward_ne_nil_again hs.sound hreach.sound now' hd hd' hrules hw hrow)
    refine ⟨u, r, hu, hchanged, hreloaded, fun k hk => ?_⟩
    rw [hstore]
    exact rule?_again hs.sound hreach.sound hd hd' hrules habort hk

end System

/-- No watcher can be written, but any can be removed. -/
def Sample.readOnly : Outage
  | .createOrReplace id => some (.conflict id)
  | _ => none

namespace System

/-- In the sample the stale row is removed before the watcher of the edge cannot be written. The
second attempt ends well. -/
theorem sample_repairs : ∃ t u r,
    (Sample.system .one).compile Sample.readOnly Sample.resolver .default default Sample.composition
      = (t, .error (.store (.conflict "meld-edge/c/a/p"))) ∧
    t.engine = (Sample.system .one).engine ∧
    t.compile .none Sample.resolver .default default Sample.composition = (u, .ok r) ∧
    r.report.changed = true := by
  have hs : (Sample.system .one).store.Reachable := ⟨_, rfl⟩
  have hcalls : (((Sample.system .one).prepare Sample.readOnly Sample.resolver
      ⟨"c", .default, default⟩ Sample.composition).result.map fun found =>
        (Write.planBy .ascending (byId found.1) found.2.desired default).map Write.call) =
      .ok [.delete "meld-edge/c/x/y", .createOrReplace "meld-edge/c/a/p"] := by
    decide +kernel
  cases hprepared : ((Sample.system .one).prepare Sample.readOnly Sample.resolver
      ⟨"c", .default, default⟩ Sample.composition).result with
  | error f =>
    rw [hprepared] at hcalls
    cases hcalls
  | ok found =>
    rw [hprepared] at hcalls
    obtain ⟨v, ws, hwrites, hv, hws⟩ := List.map_eq_cons_iff.1 (Except.ok.inj hcalls)
    obtain ⟨w, rest, rfl, hw, -⟩ := List.map_eq_cons_iff.1 hws
    have hdone : ∀ u ∈ [v], Sample.readOnly u.call = none := by
      intro u hu
      rw [List.mem_singleton.1 hu, hv]
      rfl
    have hfails : Sample.readOnly w.call = some (.conflict "meld-edge/c/a/p") := by
      rw [hw]
      rfl
    obtain ⟨t, whole, ht, -, habort, hagain⟩ :=
      compile_repairs hs (by decide) hprepared .ascending hwrites hdone hfails
    obtain ⟨u, r, hu, hchanged, -⟩ := hagain .ascending default
    exact ⟨t, u, r, ht, habort.engine, hu, hchanged⟩

end System

end Watchtower
