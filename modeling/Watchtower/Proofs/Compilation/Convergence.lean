import Mathlib.Tactic.Common
import Watchtower.Proofs.Compilation.Commit
import Watchtower.Proofs.Reload

/-!
Compiling converges, and compiling again changes nothing as long as thresholds are numbers.

The rules that a composition comes to are a function of the rows outside its stem, of the resolver
and of the settings (`Plan.rulesFor`). A compilation that ends well leaves these rules under the
stem, whatever was there before (`System.compile_converges`). The next one finds every planned rule
in place exactly if every planned threshold is a number (`System.recompile_settled_iff`).
-/

namespace Watchtower

open Traced

/-- The rules that a composition comes to over some rows of watchers. -/
def Plan.rulesFor (rows : Table (Row Watcher)) (resolver : Resolver) (config : CompilerConfig)
    (c : Composition) : Except StoreFault (Table Rule) :=
  (make ⟨⟨rows, .empty⟩, .none⟩ resolver ⟨c.id, config, default⟩ c).result.map fun p =>
    p.desired.map (·.rule)

namespace Store

theorem deleteByStem_deleteByStem (s : Store) (stem : String) :
    (s.deleteByStem stem).deleteByStem stem = s.deleteByStem stem := by
  have h : ∀ k, ((s.deleteByStem stem).deleteByStem stem).watchers.get? k =
      (s.deleteByStem stem).watchers.get? k := by
    intro k
    simp only [get?_deleteByStem]
    split <;> rfl
  exact congrArg (fun t : Table (Row Watcher) => (⟨t, s.cursors⟩ : Store)) (Table.ext h)

end Store

/-! ### Thresholds that are numbers -/

namespace Rule

/-- Every threshold is a number. -/
structure HasNumbers (r : Rule) : Prop where
  similarity : ∀ s ∈ r.similarity, s.threshold.isNaN = false
  antecedent : ∀ a ∈ r.antecedent, a.threshold.isNaN = false

/-- What agrees with another rule has numbers, and so has the other one. -/
theorem hasNumbers_of_same {r q : Rule} (h : r.same q = true) : q.HasNumbers := by
  simp only [same, Bool.and_eq_true] at h
  obtain ⟨⟨⟨-, hs⟩, ha⟩, -⟩ := h
  constructor
  · intro t ht
    cases hr : r.similarity with
    | none => simp [hr, Option.mem_def.1 ht, sameOption] at hs
    | some s =>
      simp only [hr, Option.mem_def.1 ht, sameOption, Similarity.same, Numeric.Single.equals,
        Bool.and_eq_true, Bool.not_eq_true'] at hs
      exact hs.1.2.1.2
  · intro b hb
    cases hr : r.antecedent with
    | none => simp [hr, Option.mem_def.1 hb, sameOption] at ha
    | some a =>
      simp only [hr, Option.mem_def.1 hb, sameOption, Antecedent.same, Numeric.Single.equals,
        Bool.and_eq_true, Bool.not_eq_true'] at ha
      exact ha.2.1.2

/-- A rule agrees with itself exactly if it has numbers. -/
theorem same_self {r : Rule} : r.same r = true ↔ r.HasNumbers := by
  refine ⟨hasNumbers_of_same, fun ⟨hs, ha⟩ => ?_⟩
  have hsim : sameOption Similarity.same r.similarity r.similarity = true := by
    cases hr : r.similarity with
    | none => rfl
    | some s => simp [sameOption, Similarity.same, Numeric.Single.equals, hs s hr]
  have hante : sameOption Antecedent.same r.antecedent r.antecedent = true := by
    cases hr : r.antecedent with
    | none => rfl
    | some a => simp [sameOption, Antecedent.same, Numeric.Single.equals, ha a hr]
  simp [same, hsim, hante]

end Rule

namespace CompileReport

/-- Every planned watcher was found in place, so nothing was written and the engine not reloaded. -/
structure Idle (r : CompileReport) (planned : Nat) : Prop where
  created : r.created = 0
  replaced : r.replaced = 0
  deleted : r.deleted = 0
  unchanged : r.unchanged = planned
  reloaded : r.reloaded = false

end CompileReport

namespace System

variable {s s' : System} {outage : Outage} {resolver : Resolver} {config : CompilerConfig}
  {now : Moment} {c : Composition}

/-! ### What a compilation consists of -/

@[simp] theorem reloadIfChanged_store (s : System) (outage : Outage) (r : CompileReport) :
    (s.reloadIfChanged outage r).1.store = s.store := (s.reloadIfChanged_reloaded outage r).store

theorem prepare_eq_ok {x : Plan.Context} {existing : List Watcher} {plan : Plan} :
    (s.prepare outage resolver x c).result = .ok (existing, plan) ↔
      outage (.listByStem (Naming.edgeStem c.id)) = none ∧
        existing = s.store.listByStem (Naming.edgeStem c.id) ∧
          (Plan.make (s.access outage) resolver x c).result = .ok plan := by
  unfold prepare Access.listByStem Access.attempt
  rw [result_bind]
  cases ho : (s.access outage).outage (.listByStem (Naming.edgeStem c.id)) with
  | some f =>
    have ho' : outage (.listByStem (Naming.edgeStem c.id)) = some f := ho
    simp [ho', Except.bind]
  | none =>
    have ho' : outage (.listByStem (Naming.edgeStem c.id)) = none := ho
    cases hp : (Plan.make (s.access outage) resolver x c).result with
    | error f => simp [hp, Access.scanned, Except.bind]
    | ok p =>
      simp only [Access.scanned, Except.bind, result_bind, hp, result_sayAll, result_pure,
        Except.ok.injEq, Prod.mk.injEq, ho', true_and]
      exact and_congr_left' eq_comm

/-- A compilation that ends well has planned, has committed all its writes, and has then reloaded if
they changed something. -/
theorem compile_commits {r : Compiled} (h : s.compile outage resolver config now c = (s', .ok r)) :
    Naming.isSegment c.id = true ∧
    ∃ plan commit, (Plan.make (s.access outage) resolver ⟨c.id, config, now⟩ c).result = .ok plan ∧
      commit = Commit.run outage s.store (Write.toward s.store c.id plan.desired now) ∧
      commit.fault = none ∧
      ∃ u : System,
        let done := u.reloadIfChanged outage
          (reportOf (s.store.listByStem (Naming.edgeStem c.id)) plan now commit)
        r.report = done.2 ∧ s'.store = done.1.store ∧ s'.engine = done.1.engine ∧
          u.store = commit.store ∧ u.engine = s.engine := by
  unfold compile at h
  split at h
  · cases h
  next hid =>
  refine ⟨by simpa using hid, ?_⟩
  dsimp only at h
  cases hp : (s.prepare outage resolver ⟨c.id, config, now⟩ c).result with
  | error f => rw [hp] at h; cases h
  | ok found =>
    obtain ⟨existing, plan⟩ := found
    obtain ⟨-, rfl, hplan⟩ := prepare_eq_ok.1 hp
    rw [hp] at h
    simp only [note] at h
    split at h
    · cases h
    · next hfault =>
      obtain ⟨rfl, hr⟩ := Prod.mk.inj h
      obtain rfl := Except.ok.inj hr
      exact ⟨plan, _, hplan, rfl, hfault, _, rfl, rfl, rfl, rfl, rfl⟩

/-- A reload adds nothing to a report but that it has taken place. -/
theorem reloadIfChanged_report (s : System) (outage : Outage) (r : CompileReport) :
    (s.reloadIfChanged outage r).2 = r ∨
      (s.reloadIfChanged outage r).2 = { r with reloaded := true } := by
  unfold reloadIfChanged
  split
  · split
    · exact .inr rfl
    · exact .inl rfl
  · exact .inl rfl

/-- A compilation that ends well has planned and has carried out all the writes. -/
theorem compile_eq_ok {r : Compiled} (h : s.compile outage resolver config now c = (s', .ok r)) :
    Naming.isSegment c.id = true ∧
    ∃ plan, (Plan.make (s.access outage) resolver ⟨c.id, config, now⟩ c).result = .ok plan ∧
      s'.store = (Write.toward s.store c.id plan.desired now).foldl Write.apply s.store ∧
      r.report.unchanged = plan.desired.values.countP fun w =>
        (Write.of? (byId (s.store.listByStem (Naming.edgeStem c.id))) now w).isNone := by
  obtain ⟨hid, plan, commit, hplan, rfl, hfault, u, hreport, hs', -, hstore, -⟩ := compile_commits h
  refine ⟨hid, plan, hplan, ?_, ?_⟩
  · rw [hs', reloadIfChanged_store, hstore]
    exact Commit.store_run hfault
  · rw [hreport]
    rcases u.reloadIfChanged_report outage _ with he | he <;> rw [he] <;> rfl

/-- A compilation that has nothing to write ends well, even if every write would fail. -/
theorem compile_of_no_writes {plan : Plan} (hid : Naming.isSegment c.id = true)
    (ho : outage (.listByStem (Naming.edgeStem c.id)) = none)
    (hplan : (Plan.make (s.access outage) resolver ⟨c.id, config, now⟩ c).result = .ok plan)
    (hw : Write.toward s.store c.id plan.desired now = []) :
    ∃ t r, s.compile outage resolver config now c = (t, .ok r) ∧
      r.report.Idle plan.desired.size ∧ t.store = s.store ∧ t.engine = s.engine := by
  have hp : (s.prepare outage resolver ⟨c.id, config, now⟩ c).result =
      .ok (s.store.listByStem (Naming.edgeStem c.id), plan) := prepare_eq_ok.2 ⟨ho, rfl, hplan⟩
  have hnone : ∀ w ∈ plan.desired.values,
      (Write.of? (byId (s.store.listByStem (Naming.edgeStem c.id))) now w).isNone = true := by
    intro w hm
    have h := List.filterMap_eq_nil_iff.1 (List.append_eq_nil_iff.1 hw).2 w hm
    rw [h, Option.isNone_none]
  unfold compile
  rw [if_neg (by simp [hid])]
  dsimp only
  rw [hp]
  dsimp only
  rw [show Write.plan (byId (s.store.listByStem (Naming.edgeStem c.id))) plan.desired now = []
    from hw]
  refine ⟨_, _, rfl, ⟨rfl, rfl, rfl, ?_, rfl⟩, rfl, rfl⟩
  exact (List.countP_eq_length.2 hnone).trans (Table.length_values _)

/-- Whatever becomes of a compilation, the store has been reached by changes. -/
theorem reachable_compile (hs : s.store.Reachable) (outage : Outage) (resolver : Resolver)
    (config : CompilerConfig) (now : Moment) (c : Composition) :
    (s.compile outage resolver config now c).1.store.Reachable := by
  unfold compile
  split
  · exact hs
  dsimp only
  split
  · exact hs
  · split
    · exact Commit.reachable_run hs _
    · simpa [note] using Commit.reachable_run hs _

/-! ### What a compilation leaves under the stem -/

section

variable {plan : Plan}

/-- Two compilations of a composition over stores that agree outside its stem plan the same rules. -/
theorem make_agrees (hs : s.store.Sound) (hs' : s'.store.Sound)
    (hrows : (s.store.deleteByStem (Naming.edgeStem c.id)).watchers =
      (s'.store.deleteByStem (Naming.edgeStem c.id)).watchers) (outage' : Outage) (now' : Moment)
    (ho : ∀ call, call.plans = true → outage' call = none)
    (hplan : (Plan.make (s.access outage) resolver ⟨c.id, config, now⟩ c).result = .ok plan) :
    ∃ plan', (Plan.make (s'.access outage') resolver ⟨c.id, config, now'⟩ c).result = .ok plan' ∧
      plan'.desired.map (·.rule) = plan.desired.map (·.rule) := by
  have ha : (s.access outage).AnswersFor (Naming.edgeStem c.id) (s'.access outage') :=
    Access.answersFor hs hs' hrows fun call hc _ => ho call hc
  obtain ⟨plan', hplan', halike⟩ := Plan.make_leads now' rfl ha resolver plan hplan
  exact ⟨plan', hplan', halike.rules.symm⟩

/-- The rules planned are those that the composition comes to over the rows outside its stem. -/
theorem rulesFor_of_make (hs : s.store.Sound)
    (hplan : (Plan.make (s.access outage) resolver ⟨c.id, config, now⟩ c).result = .ok plan) :
    Plan.rulesFor (s.store.deleteByStem (Naming.edgeStem c.id)).watchers resolver config c =
      .ok (plan.desired.map (·.rule)) := by
  have hoff : Store.Sound ⟨(s.store.deleteByStem (Naming.edgeStem c.id)).watchers, .empty⟩ :=
    ⟨(hs.filter _).watcher, Store.sound_empty.cursor⟩
  have hrows := congrArg Store.watchers (s.store.deleteByStem_deleteByStem (Naming.edgeStem c.id))
  obtain ⟨plan', hplan', hrules⟩ := @make_agrees s { s with store := _ } outage resolver config now c
    plan hs hoff hrows.symm .none default (fun _ _ => rfl) hplan
  rw [Plan.rulesFor]
  exact (congrArg (Except.map _) hplan').trans (congrArg Except.ok hrules)

end

/-- What a compilation that ended well leaves behind: under the stem the planned rules, each under
its own id and no other intact row, and everything else as it was. -/
structure Leaves (s s' : System) (c : Composition) (plan : Plan) : Prop where
  sound : s'.store.Sound
  owned : Plan.Owned c.id plan.desired
  planned : ∀ {k v}, s'.store.watchers.get? k = some (.intact v) →
    Naming.startsWith k (Naming.edgeStem c.id) = true → ∃ w, plan.desired.get? k = some w
  left : ∀ {k w}, plan.desired.get? k = some w → ∃ v : Watcher,
    s'.store.watchers.get? k = some (.intact v) ∧ (v.rule = w.rule ∨ v.rule.same w.rule = true)
  outside : ∀ {k}, Naming.startsWith k (Naming.edgeStem c.id) = false →
    s'.store.watchers.get? k = s.store.watchers.get? k
  cursors : s'.store.cursors = s.store.cursors

theorem compile_leaves {r : Compiled} (hs : s.store.Reachable)
    (h : s.compile outage resolver config now c = (s', .ok r)) :
    Naming.isSegment c.id = true ∧
    ∃ plan, (Plan.make (s.access outage) resolver ⟨c.id, config, now⟩ c).result = .ok plan ∧
      Leaves s s' c plan := by
  obtain ⟨hid, plan, hplan, hstore, -⟩ := compile_eq_ok h
  have hsound := hs.sound
  have hd : Plan.Owned c.id plan.desired := Plan.make_ensures resolver c plan hplan
  refine ⟨hid, plan, hplan, ⟨?_, hd, ?_, ?_, ?_, ?_⟩⟩
  · have hr := reachable_compile hs outage resolver config now c
    rw [h] at hr
    exact hr.sound
  · intro k v hrow hstem
    cases hw : plan.desired.get? k with
    | some w => exact ⟨w, rfl⟩
    | none =>
      rw [hstore] at hrow
      exact absurd hrow (Write.not_intact_of_unplanned hsound hd hstem hw v)
  · intro k w hw
    rw [hstore]
    exact Write.rules_of_planned hsound hd hw
  · intro k hk
    rw [hstore]
    exact Write.get?_outside hsound hd hk
  · rw [hstore, Write.cursors_foldl]

/-- A compilation that ends well leaves the rules that the composition comes to under its stem, each
under its own id and nothing beside them, and leaves everything else alone. What was stored under
the stem before has no say in these rules. -/
theorem compile_converges {r : Compiled} (hs : s.store.Reachable)
    (h : s.compile outage resolver config now c = (s', .ok r)) :
    ∃ desired, Plan.rulesFor (s.store.deleteByStem (Naming.edgeStem c.id)).watchers resolver config c
        = .ok desired ∧
      (s'.store.listByStem (Naming.edgeStem c.id)).map (·.id) = desired.keys ∧
      (∀ w ∈ s'.store.listByStem (Naming.edgeStem c.id), ∃ rule, desired.get? w.id = some rule ∧
        (w.rule = rule ∨ w.rule.same rule = true)) ∧
      (∀ id, Naming.startsWith id (Naming.edgeStem c.id) = false →
        s'.store.watchers.get? id = s.store.watchers.get? id) ∧
      s'.store.cursors = s.store.cursors := by
  obtain ⟨-, plan, hplan, hl⟩ := compile_leaves hs h
  refine ⟨_, rulesFor_of_make hs.sound hplan, ?_, ?_, fun id hid => hl.outside hid, hl.cursors⟩
  · refine Table.eq_of_ordered (Store.scan_ordered hl.sound _) (Table.keys_ordered _) fun k => ?_
    rw [Table.keys_map, Table.mem_keys, List.mem_map]
    constructor
    · rintro ⟨w, hw, rfl⟩
      obtain ⟨hrow, hstem⟩ := (Store.mem_listByStem hl.sound).1 hw
      exact hl.planned hrow hstem
    · rintro ⟨w, hw⟩
      obtain ⟨v, hv, -⟩ := hl.left hw
      obtain ⟨rfl, -⟩ := hl.sound.watcher hv
      exact ⟨v, (Store.mem_listByStem hl.sound).2 ⟨hv, (hl.owned hw).2⟩, rfl⟩
  · intro w hw
    obtain ⟨hrow, hstem⟩ := (Store.mem_listByStem hl.sound).1 hw
    obtain ⟨d, hd⟩ := hl.planned hrow hstem
    obtain ⟨v, hv, hrule⟩ := hl.left hd
    rw [hrow] at hv
    obtain rfl := Row.intact.inj (Option.some.inj hv)
    exact ⟨d.rule, by rw [Table.get?_map, hd, Option.map_some], hrule⟩

end System

/-! An edge from a semantic glyph to one that runs, over a store with a stale row of the
composition. -/

namespace Sample

/-- A semantic glyph's standalone watcher. -/
def semantic (glyph : String) (threshold : Numeric.Single) : Watcher where
  id := Naming.semanticWatcher glyph
  rule := ⟨glyph, true, .webhook, "", .any, none, some ⟨glyph, threshold, none⟩, none, 60⟩
  stats := .none
  createdAt := default
  updatedAt := default

/-- A standalone watcher, and a row left by an earlier compilation of the composition. -/
def store (threshold : Numeric.Single) : Store :=
  [.create (semantic "a" threshold),
    .create { semantic "a" .one with id := Naming.edgeWatcher "c" "x" "y" }].foldl Store.apply .empty

def system (threshold : Numeric.Single) : System where
  store := store threshold
  engine := {
    config := .default
    exports := false
    active := .empty
    limiter := ⟨60000, .empty⟩
    dispatch := .idle 1024 64
    feed := .ofCapacity 256
    dispatching := false
    stopped := false }
  metrics := .zero
  journal := []

/-- One glyph runs, and every other one is semantic. -/
def resolver : Resolver := fun id => .ok (if id = "p" then some .python else some .semantic)

def composition : Composition := ⟨"c", [⟨"a", "p", "right", 0⟩]⟩

end Sample

namespace System

variable {s s' : System} {outage : Outage} {resolver : Resolver} {config : CompilerConfig}
  {now : Moment} {c : Composition}

theorem exists_of_isOk {x : System × Except Fault Compiled} (h : x.2.isOk = true) :
    ∃ s' r, x = (s', .ok r) := by
  obtain ⟨s', f | r⟩ := x
  · cases h
  · exact ⟨s', r, rfl⟩

/-- The stale row of the sample is gone, and its edge has its watcher. -/
theorem sample_converges : ∃ s' r,
    (Sample.system .one).compile .none Sample.resolver .default default Sample.composition
      = (s', .ok r) ∧
    (s'.store.listByStem (Naming.edgeStem "c")).map (·.id) =
      ["meld-edge/c/a/p"] := by
  have hs : (Sample.system .one).store.Reachable := ⟨_, rfl⟩
  obtain ⟨s', r, h⟩ := exists_of_isOk (x := (Sample.system .one).compile .none Sample.resolver
    .default default Sample.composition) (by decide +kernel)
  obtain ⟨desired, hdesired, hids, -⟩ := compile_converges hs h
  have hkeys : (Plan.rulesFor ((Sample.system .one).store.deleteByStem
      (Naming.edgeStem Sample.composition.id)).watchers Sample.resolver .default
        Sample.composition).map Table.keys = .ok ["meld-edge/c/a/p"] := by
    decide +kernel
  rw [hdesired] at hkeys
  exact ⟨s', r, h, hids.trans (Except.ok.inj hkeys)⟩

/-! ### Compiling again -/

variable {plan plan' : Plan}

/-- From here on, compiling the same input finds so many planned watchers in place and changes
nothing, at any time and even while every write fails. -/
def Settled (s : System) (resolver : Resolver) (config : CompilerConfig) (c : Composition)
    (planned : Nat) : Prop :=
  ∀ (outage : Outage) (now : Moment), (∀ call, call.plans = true → outage call = none) →
    ∃ t r, s.compile outage resolver config now c = (t, .ok r) ∧ r.report.Idle planned ∧
      t.store = s.store ∧ t.engine = s.engine

theorem Leaves.rows_outside (hl : Leaves s s' c plan) :
    (s'.store.deleteByStem (Naming.edgeStem c.id)).watchers =
      (s.store.deleteByStem (Naming.edgeStem c.id)).watchers :=
  Store.rows_outside_eq fun _ hk => hl.outside hk

/-- Where the planned rules equal themselves, a plan of the same rules needs no write. -/
theorem Leaves.toward_eq_nil (hl : Leaves s s' c plan) (now' : Moment)
    (hd : Plan.Owned c.id plan'.desired)
    (hrules : plan'.desired.map (·.rule) = plan.desired.map (·.rule))
    (hn : ∀ rule ∈ (plan.desired.map (·.rule)).values, rule.HasNumbers) :
    Write.toward s'.store c.id plan'.desired now' = [] := by
  have hget : ∀ k, (plan'.desired.get? k).map (·.rule) = (plan.desired.get? k).map (·.rule) := by
    intro k
    rw [← Table.get?_map, ← Table.get?_map, hrules]
  refine List.append_eq_nil_iff.2 ⟨?_, ?_⟩
  · rw [List.map_eq_nil_iff, List.eq_nil_iff_forall_not_mem]
    intro k hk
    obtain ⟨⟨v, hv⟩, hnone⟩ := Write.mem_stale.1 hk
    obtain ⟨hrow, hstem⟩ := (get?_byId_eq_some hl.sound).1 hv
    obtain ⟨w, hw⟩ := hl.planned hrow hstem
    have hg := hget k
    rw [hnone, hw] at hg
    cases hg
  · refine List.filterMap_eq_nil_iff.2 fun w hw => ?_
    obtain ⟨k, hk⟩ := Table.mem_values.1 hw
    obtain ⟨rfl, hstem⟩ := hd hk
    have hg := hget w.id
    rw [hk, Option.map_some] at hg
    obtain ⟨d, hdw, hrule⟩ := Option.map_eq_some_iff.1 hg.symm
    obtain ⟨v, hv, hsame⟩ := hl.left hdw
    obtain ⟨hid, -⟩ := hl.sound.watcher hv
    have hnum : d.rule.HasNumbers := by
      refine hn _ (Table.mem_values.2 ⟨w.id, ?_⟩)
      rw [Table.get?_map, hdw, Option.map_some]
    refine Write.of?_eq_none.2 ⟨v, (get?_byId_eq_some hl.sound).2 ⟨hv, hstem⟩, ?_⟩
    rw [Watcher.sameRule, hid, beq_self_eq_true, Bool.true_and, ← hrule]
    rcases hsame with hsame | hsame
    · rw [hsame]
      exact Rule.same_self.2 hnum
    · exact hsame

/-- After a compilation that ended well the next one of the same input finds everything in place
exactly if every threshold planned is a number. -/
theorem recompile_settled_iff {r : Compiled} (hs : s.store.Reachable)
    (h : s.compile outage resolver config now c = (s', .ok r)) :
    ∃ desired, Plan.rulesFor (s.store.deleteByStem (Naming.edgeStem c.id)).watchers resolver config c
        = .ok desired ∧
      (s'.Settled resolver config c desired.size ↔ ∀ rule ∈ desired.values, rule.HasNumbers) := by
  obtain ⟨hid, plan, hplan, hl⟩ := compile_leaves hs h
  have hagain := fun (outage' : Outage) (now' : Moment)
      (ho : ∀ call, call.plans = true → outage' call = none) =>
    make_agrees hs.sound hl.sound hl.rows_outside.symm outage' now' ho hplan
  refine ⟨_, rulesFor_of_make hs.sound hplan, ⟨?_, ?_⟩⟩
  · intro hidle rule hrule
    obtain ⟨t, r', hrun, hidle, -⟩ := hidle .none now fun _ _ => rfl
    obtain ⟨plan', hplan', hrules⟩ := hagain .none now fun _ _ => rfl
    obtain ⟨-, plan'', hplan'', -, hcount⟩ := compile_eq_ok hrun
    obtain rfl := Except.ok.inj (hplan'.symm.trans hplan'')
    -- everything planned is counted as unchanged, so everything planned equals what is stored
    rw [hidle.unchanged, ← hrules, Table.size_map, ← Table.length_values] at hcount
    rw [← hrules, Table.values_map, List.mem_map] at hrule
    obtain ⟨w, hw, rfl⟩ := hrule
    have hnone := List.countP_eq_length.1 hcount.symm w hw
    obtain ⟨v, -, hsame⟩ := Write.of?_eq_none.1 (Option.isNone_iff_eq_none.1 hnone)
    exact Rule.hasNumbers_of_same (Bool.and_eq_true_iff.1 hsame).2
  · intro hn outage' now' ho
    obtain ⟨plan', hplan', hrules⟩ := hagain outage' now' ho
    have hd : Plan.Owned c.id plan'.desired := Plan.make_ensures resolver c plan' hplan'
    have hnil := hl.toward_eq_nil now' hd hrules hn
    obtain ⟨t, r', hrun, hidle, hstore, hengine⟩ :=
      compile_of_no_writes hid (ho _ rfl) hplan' hnil
    rw [← hrules, Table.size_map]
    exact ⟨t, r', hrun, hidle, hstore, hengine⟩

/-- The sample is settled once it has been compiled. -/
theorem sample_settled : ∃ s' r,
    (Sample.system .one).compile .none Sample.resolver .default default Sample.composition
      = (s', .ok r) ∧
    s'.Settled Sample.resolver .default Sample.composition 1 := by
  have hs : (Sample.system .one).store.Reachable := ⟨_, rfl⟩
  obtain ⟨s', r, h⟩ := exists_of_isOk (x := (Sample.system .one).compile .none Sample.resolver
    .default default Sample.composition) (by decide +kernel)
  obtain ⟨desired, hdesired, hiff⟩ := recompile_settled_iff hs h
  have hrules : (Plan.rulesFor ((Sample.system .one).store.deleteByStem
      (Naming.edgeStem Sample.composition.id)).watchers Sample.resolver .default
        Sample.composition).map (fun d => (d.size, d.values.all fun rule => rule.same rule))
      = .ok (1, true) := by
    decide +kernel
  rw [hdesired] at hrules
  obtain ⟨hsize, hall⟩ := Prod.mk.inj (Except.ok.inj hrules)
  rw [hsize] at hiff
  refine ⟨s', r, h, hiff.2 fun rule hrule => Rule.same_self.1 ?_⟩
  exact List.all_eq_true.1 hall rule hrule

/-- With a threshold that is no number the sample is not settled: the next compilation replaces its
watcher. -/
theorem sample_not_settled : ∃ s' r, (Sample.system .notANumber).store.Reachable ∧
    (Sample.system .notANumber).compile .none Sample.resolver .default default Sample.composition
      = (s', .ok r) ∧
    ¬ s'.Settled Sample.resolver .default Sample.composition 1 := by
  obtain ⟨s', r, h⟩ := exists_of_isOk (x := (Sample.system .notANumber).compile .none
    Sample.resolver .default default Sample.composition) (by decide +kernel)
  refine ⟨s', r, ⟨_, rfl⟩, h, fun hsettled => ?_⟩
  obtain ⟨t, r', hrun, hidle, -⟩ := hsettled .none default fun _ _ => rfl
  have hreplaced : (((Sample.system .notANumber).compile .none Sample.resolver .default default
      Sample.composition).1.compile .none Sample.resolver .default default
        Sample.composition).2.toOption.map (fun r => r.report.replaced) = some 1 := by
    decide +kernel
  rw [h, hrun] at hreplaced
  have hone : r'.report.replaced = 1 := Option.some.inj hreplaced
  rw [hidle.replaced] at hone
  cases hone

end System

end Watchtower
