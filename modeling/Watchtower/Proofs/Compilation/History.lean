import Mathlib.Tactic.Common
import Watchtower.Proofs.Compilation.Convergence

/-!
What becomes of a watcher's past when its composition is compiled.

Planned watchers have no past, and one that takes the place of a stored one is given the past of that
one. There is at most one write about an id, so however a compilation ends, a watcher that is stored
afterwards has the past that was stored before, and a new one if there was none
(`System.history?_compile`).
-/

namespace Watchtower

/-- What a row keeps of a watcher's past. -/
structure History where
  stats : Statistics
  createdAt : Moment

namespace History

/-- Nothing has happened since the moment. -/
def new (createdAt : Moment) : History := ⟨.none, createdAt⟩

end History

def Watcher.history (w : Watcher) : History := ⟨w.stats, w.createdAt⟩

namespace Store

/-- The past of the watcher in the intact row under an id. -/
def history? (s : Store) (id : String) : Option History :=
  ((s.watchers.get? id).bind Row.value?).map (·.history)

variable {s t : Store} {id : String}

theorem history?_eq_some {p : History} :
    s.history? id = some p ↔ ∃ w, s.watchers.get? id = some (.intact w) ∧ w.history = p := by
  unfold history?
  rcases s.watchers.get? id with - | w | -
  · simp
  · simp [Row.value?]
  · simp [Row.value?]

theorem history?_of_row_eq (h : t.watchers.get? id = s.watchers.get? id) :
    t.history? id = s.history? id := by
  rw [history?, history?, h]

end Store

namespace Write

variable {s : Store} {x : Plan.Context} {desired : Table Watcher} {u : Write} {w : Watcher}

/-- A watcher that is written has the past that was stored under its id, or it is new. -/
theorem history_of_mem_toward (hs : s.Sound) (hfresh : Plan.AllFresh x desired)
    (hu : u ∈ toward s x.composition desired x.now) (hrow : u.row? = some (.intact w)) :
    w.history = (s.history? u.id).getD (.new x.now) := by
  rcases (mem_plan hfresh.owned).1 hu with ⟨k, -, rfl⟩ | ⟨d, hd, hof⟩
  · cases hrow
  obtain ⟨hid, hnew⟩ := hfresh _ d hd
  have hstem : Naming.startsWith u.id (Naming.edgeStem x.composition) = true :=
    (hfresh.owned hd).2
  unfold of? at hof
  rw [hid] at hof
  split at hof
  · next stored hstored =>
    have hbefore := ((System.get?_byId_eq_some hs).1 hstored).1
    rw [Store.history?_eq_some.2 ⟨stored, hbefore, rfl⟩]
    split at hof
    · cases hof
    · obtain rfl := Option.some.inj hof
      obtain rfl := Row.intact.inj (Option.some.inj hrow)
      rfl
  · next hnone =>
    have hbefore : s.history? u.id = none := by
      rw [Option.eq_none_iff_forall_ne_some]
      intro p hp
      obtain ⟨v, hv, -⟩ := Store.history?_eq_some.1 hp
      rw [(System.get?_byId_eq_some hs).2 ⟨hv, hstem⟩] at hnone
      cases hnone
    rw [hbefore]
    obtain rfl := Option.some.inj hof
    obtain rfl := Row.intact.inj (Option.some.inj hrow)
    show History.mk d.stats d.createdAt = _
    rw [hnew.stats, hnew.createdAt]
    rfl

/-- Whichever of the writes have been carried out, what is stored has the past that was stored. -/
theorem history?_of_done (hs : s.Sound) (hfresh : Plan.AllFresh x desired) {done : List Write}
    (hdone : done.Sublist (toward s x.composition desired x.now)) {id : String} {p : History}
    (h : (done.foldl apply s).history? id = some p) :
    p = (s.history? id).getD (.new x.now) := by
  by_cases hin : ∃ u ∈ done, u.id = id
  · obtain ⟨u, hu, rfl⟩ := hin
    obtain ⟨w, hw, rfl⟩ := Store.history?_eq_some.1 h
    rw [get?_foldl_of_mem s ((plan_pairwise hfresh.owned).sublist hdone) hu] at hw
    exact history_of_mem_toward hs hfresh (hdone.subset hu) hw
  · have hsame := get?_foldl_of_forall_ne (k := id) s fun u hu e => hin ⟨u, hu, e⟩
    rw [Store.history?_of_row_eq hsame] at h
    rw [h, Option.getD_some]

end Write

/-- However a compilation ends, a watcher that is stored afterwards has the past of the one that was
stored before, or else it is new. -/
theorem System.history?_compile {s : System} (hs : s.store.Sound) {outage : Outage}
    {resolver : Resolver} {config : CompilerConfig} {now : Moment} {c : Composition} {id : String}
    {p : History}
    (h : (s.compile outage resolver config now c).1.store.history? id = some p) :
    p = (s.store.history? id).getD (.new now) := by
  unfold compile at h
  split at h
  · rw [show s.store.history? id = some p from h, Option.getD_some]
  dsimp only at h
  split at h
  · rw [show s.store.history? id = some p from h, Option.getD_some]
  next existing plan hprepared =>
  obtain ⟨-, rfl, hplan⟩ := prepare_eq_ok.1 hprepared
  have hfresh := Plan.make_fresh resolver c plan hplan
  obtain ⟨done, hdone, hstore⟩ := Commit.exists_done (o := outage)
    (Write.toward s.store c.id plan.desired now) (c := ⟨s.store, [], none, []⟩) rfl
  have hcommitted : (Commit.run outage s.store
      (Write.toward s.store c.id plan.desired now)).store.history? id = some p := by
    split at h
    · exact h
    · simpa only [note, reloadIfChanged_store] using h
  rw [Commit.run, hstore] at hcommitted
  exact Write.history?_of_done hs hfresh hdone hcommitted

end Watchtower
