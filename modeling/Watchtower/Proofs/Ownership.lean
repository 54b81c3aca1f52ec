import Mathlib.Tactic.Common
import Watchtower.Proofs.Compilation.Conditions
import Watchtower.Proofs.Compilation.Convergence

/-!
Which watchers belong to which composition.

The owner of a watcher is read off its id: it stands between the first two separators of an id that
starts as those of compiled watchers do. Owners are segments, so the stem of a composition starts
exactly the ids that it owns, and no id has two owners, even if one composition's name starts
another's (`Naming.startsWith_edgeStem`). Names that are given to watchers tell what they were made
of. So whatever goes by the stem of a composition reaches the watchers that it owns and no others
(`Access.reaches_own`).
-/

namespace Watchtower

namespace Naming

/-- An id that may stand between separators. -/
abbrev Segment := { id : String // isSegment id = true }

/-! ### Names given to watchers -/

/-- The names that are given to watchers. -/
inductive Given where
  | edge (composition source target : Segment)
  | semantic (glyph : String)
  | query (glyph : String)
  deriving DecidableEq

namespace Given

def text : Given → String
  | edge composition source target => edgeWatcher composition source target
  | semantic glyph => semanticWatcher glyph
  | query glyph => queryWatcher glyph

/-- The composition that the watcher is compiled for. -/
def composition? : Given → Option Segment
  | edge composition _ _ => some composition
  | _ => none

end Given

/-! ### Owners -/

/-- The text before the first separator. -/
def head (s : String) : String := String.ofList (s.toList.takeWhile (· ≠ separator))

/-- The segment before the first separator, if there are both. -/
def first? (s : String) : Option Segment :=
  if h : isSegment (head s) = true ∧ separator ∈ s.toList then some ⟨head s, h.1⟩ else none

/-- The composition that an id belongs to. -/
def owner? (id : String) : Option Segment := (after? "meld-edge/" id).bind first?

theorem toList_cut (s rest : String) :
    (s ++ ("/" ++ rest)).toList = s.toList ++ separator :: rest.toList := by
  rw [String.toList_append, String.toList_append]
  rfl

theorem head_cut {s : String} (h : separator ∉ s.toList) (rest : String) :
    head (s ++ ("/" ++ rest)) = s := by
  have hs : ∀ c ∈ s.toList, decide (c ≠ separator) = true := fun c hc =>
    decide_eq_true fun e => h (e ▸ hc)
  rw [head, toList_cut, List.takeWhile_append_of_pos hs, List.takeWhile_cons_of_neg (by simp),
    List.append_nil, String.ofList_toList]

/-- A text with a separator is what stands before the first one, and the rest. -/
theorem exists_cut {s : String} (h : separator ∈ s.toList) :
    ∃ rest, s = head s ++ ("/" ++ rest) := by
  obtain ⟨before, rest, hs, hbefore⟩ := List.eq_append_cons_of_mem h
  have hcut : s = String.ofList before ++ ("/" ++ String.ofList rest) := by
    rw [← String.toList_inj, toList_cut, String.toList_ofList, String.toList_ofList, hs]
  have hhead : head s = String.ofList before := by
    rw [hcut, head_cut (by rwa [String.toList_ofList])]
  rw [hhead]
  exact ⟨_, hcut⟩

theorem first?_eq_some {s : String} {c : Segment} :
    first? s = some c ↔ ∃ rest, s = c ++ ("/" ++ rest) := by
  unfold first?
  constructor
  · intro h
    split at h
    · next hsegment =>
      obtain rfl := Option.some.inj h
      exact exists_cut hsegment.2
    · cases h
  · rintro ⟨rest, rfl⟩
    have hhead := head_cut (isSegment_iff.1 c.2).2 rest
    have hsep : separator ∈ (c.1 ++ ("/" ++ rest)).toList := by
      rw [toList_cut]
      exact List.mem_append_right _ List.mem_cons_self
    rw [dif_pos ⟨hhead.symm ▸ c.2, hsep⟩]
    exact congrArg some (Subtype.ext hhead)

/-- A composition's stem starts the ids that it owns. -/
theorem startsWith_edgeStem (id : String) (c : Segment) :
    startsWith id (edgeStem c) = decide (owner? id = some c) := by
  rw [Bool.eq_iff_iff, decide_eq_true_iff, startsWith_iff, owner?, Option.bind_eq_some_iff]
  simp only [after?_eq_some, first?_eq_some, edgeStem, String.append_assoc]
  constructor
  · rintro ⟨rest, rfl⟩
    exact ⟨_, rfl, rest, rfl⟩
  · rintro ⟨_, rfl, rest, rfl⟩
    exact ⟨rest, rfl⟩

namespace Given

/-- The letter that the name starts with. -/
def letter : Given → Char
  | edge .. => 'm'
  | semantic _ => 's'
  | query _ => 'a'

theorem head?_text (n : Given) : n.text.toList.head? = some n.letter := by
  cases n <;> simp [text, letter, edgeWatcher, edgeStem, semanticWatcher, semanticStem,
    queryWatcher, String.toList_append]

theorem owner?_of_letter {n : Given} (h : n.letter ≠ 'm') : owner? n.text = none := by
  have hhead : n.text.toList.head? ≠ some 'm' := by
    rw [head?_text]
    exact fun e => h (Option.some.inj e)
  refine Option.eq_none_iff_forall_ne_some.2 fun c hc => ?_
  have hstem := not_startsWith_edgeStem c.1 hhead
  rw [startsWith_edgeStem, hc] at hstem
  simp at hstem

/-- The owner of a watcher is the composition that it is compiled for. -/
theorem owner?_text (n : Given) : owner? n.text = n.composition? := by
  cases n with
  | edge c f t =>
    have hstem := startsWith_edgeWatcher c.1 f.1 t.1
    rw [startsWith_edgeStem] at hstem
    exact of_decide_eq_true hstem
  | semantic glyph => exact owner?_of_letter (by simp [letter])
  | query glyph => exact owner?_of_letter (by simp [letter])

/-- A name tells what it was made of. -/
theorem text_injective : Function.Injective text := by
  intro m n e
  have howner : m.composition? = n.composition? := by rw [← owner?_text, ← owner?_text, e]
  have hletter : m.letter = n.letter := by
    have hhead := congrArg (fun id => id.toList.head?) e
    rw [head?_text, head?_text] at hhead
    exact Option.some.inj hhead
  cases m with
  | edge c f t =>
    cases n with
    | edge c' f' t' =>
      obtain rfl := Option.some.inj howner
      obtain ⟨hf, ht⟩ := edgeWatcher_inj f.2 t.2 e
      rw [Subtype.ext hf, Subtype.ext ht]
    | semantic | query => cases howner
  | semantic glyph =>
    cases n with
    | semantic glyph' => rw [semanticWatcher_inj e]
    | edge | query => simp [letter] at hletter
  | query glyph =>
    cases n with
    | query glyph' => rw [(String.append_right_inj _).1 e]
    | edge | semantic => simp [letter] at hletter

end Given

end Naming

/-! ### Calls that go by a stem -/

open Naming (Given Segment owner? edgeStem)

namespace Access

variable {s : Store} {outage : Outage} {c : Segment}

theorem listByStem_eq_ok (hs : s.Sound) {ws : List Watcher} :
    ((Access.mk s outage).listByStem (edgeStem c)).result = .ok ws ↔
      outage (.listByStem (edgeStem c)) = none ∧
        ws = (s.list true).filter fun w => owner? w.id = some c := by
  rw [listByStem, attempt_result, Store.listByStem, Store.scan_eq_filter hs]
  simp only [scanned, Except.ok.injEq, Naming.startsWith_edgeStem, eq_comm]

theorem deleteByStem_eq_ok {t : Store} {count : Nat} :
    ((Access.mk s outage).deleteByStem (edgeStem c)).result = .ok (t, count) ↔
      outage (.deleteByStem (edgeStem c)) = none ∧
        t = { s with watchers := s.watchers.filter fun id _ => owner? id ≠ some c } ∧
        count = (s.watchers.filter fun id _ => owner? id = some c).size := by
  have hact : ∀ b : Access, (do
      Traced.say (.deletedByStem (b.store.countByStem (edgeStem c)))
      return (b.store.deleteByStem (edgeStem c), b.store.countByStem (edgeStem c)) :
        Traced (Store × Nat)).result =
      .ok (b.store.deleteByStem (edgeStem c), b.store.countByStem (edgeStem c)) := fun _ => rfl
  rw [deleteByStem, attempt_result, hact]
  simp only [Except.ok.injEq, Prod.mk.injEq, Store.deleteByStem, Store.countByStem,
    Naming.startsWith_edgeStem, decide_not, eq_comm]

/-- The planner passes over compound watchers of the composition itself and over no others. -/
theorem antecedentFor_eq_ok {compounds : Plan.Compounds} {glyph : String}
    (h : compounds.get? glyph = none) {u : Option Antecedent} :
    (Plan.antecedentFor ⟨s, outage⟩ c compounds glyph).result = .ok u ↔
      outage (.compoundsFor glyph) = none ∧
        u = ((s.compoundsFor glyph).filter fun w => owner? w.id ≠ some c).findSome?
          fun w => w.rule.antecedent := by
  unfold Plan.antecedentFor
  rw [h]
  dsimp only
  rw [Traced.result_bind, compoundsFor, attempt]
  simp only [Naming.startsWith_edgeStem, decide_not]
  cases outage (.compoundsFor glyph) with
  | some f => simp [Except.bind]
  | none => simp [Except.bind, scanned, eq_comm]

/-- Names that are given to watchers differ unless they are made of the same, and those that start
with a composition's stem are the ones of its edges. A call that goes by the stem of a composition
lists and removes the watchers that the composition owns, and the planner passes over those: each of
them reaches no others, and all of these. -/
theorem reaches_own (hs : s.Reachable) (outage : Outage) (c : Segment) :
    Function.Injective Given.text ∧
    (∀ n : Given, (Naming.startsWith n.text (edgeStem c) = true ↔ n.composition? = some c) ∧
      owner? n.text = n.composition?) ∧
    (∀ ws, ((Access.mk s outage).listByStem (edgeStem c)).result = .ok ws ↔
      outage (.listByStem (edgeStem c)) = none ∧
        ws = (s.list true).filter fun w => owner? w.id = some c) ∧
    (∀ t count, ((Access.mk s outage).deleteByStem (edgeStem c)).result = .ok (t, count) ↔
      outage (.deleteByStem (edgeStem c)) = none ∧
        t = { s with watchers := s.watchers.filter fun id _ => owner? id ≠ some c } ∧
        count = (s.watchers.filter fun id _ => owner? id = some c).size) ∧
    ∀ compounds glyph u, compounds.get? glyph = none →
      ((Plan.antecedentFor ⟨s, outage⟩ c compounds glyph).result = .ok u ↔
        outage (.compoundsFor glyph) = none ∧
          u = ((s.compoundsFor glyph).filter fun w => owner? w.id ≠ some c).findSome?
            fun w => w.rule.antecedent) := by
  refine ⟨Given.text_injective, fun n => ⟨?_, n.owner?_text⟩,
    fun _ => listByStem_eq_ok hs.sound, fun _ _ => deleteByStem_eq_ok,
    fun _ _ _ h => antecedentFor_eq_ok h⟩
  rw [Naming.startsWith_edgeStem, n.owner?_text, decide_eq_true_iff]

end Access

/-! Two compositions, one name of which starts the other. -/

namespace Sample

def short : Segment := ⟨"c", by decide +kernel⟩

def long : Segment := ⟨"c1", by decide +kernel⟩

/-- A standalone watcher, and one compiled watcher of each of the compositions. -/
def shared : Store :=
  ([Given.semantic "a", .edge short short short, .edge long short short].map fun n =>
    StoreChange.create { semantic "a" .one with id := n.text }).foldl Store.apply .empty

theorem reachable_shared : shared.Reachable := ⟨_, rfl⟩

end Sample

namespace Access

/-- Only one of the two compiled watchers is listed for a composition, and the other one stays when
this one is removed. -/
theorem sample_reaches_own : ∃ ws t,
    ((Access.mk Sample.shared .none).listByStem (edgeStem Sample.short)).result = .ok ws ∧
    ws.map (·.id) = ["meld-edge/c/c/c"] ∧
    ((Access.mk Sample.shared .none).deleteByStem (edgeStem Sample.short)).result = .ok (t, 1) ∧
    t.watchers.keys = ["meld-edge/c1/c/c", "se-glyph-a"] := by
  obtain ⟨-, -, hlist, hdelete, -⟩ := reaches_own Sample.reachable_shared .none Sample.short
  have hcount :
      1 = (Sample.shared.watchers.filter fun id _ => owner? id = some Sample.short).size := by
    decide +kernel
  exact ⟨_, _, (hlist _).2 ⟨rfl, rfl⟩, by decide +kernel, (hdelete _ _).2 ⟨rfl, rfl, hcount⟩,
    by decide +kernel⟩

end Access

end Watchtower
