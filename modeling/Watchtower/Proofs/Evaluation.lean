import Mathlib.Tactic.Common
import Watchtower.Engine
import Watchtower.Evaluation
import Watchtower.Proofs.Rules

/-!
What a match means.

A watcher matches exactly if its time gate admits the attestation and its rule accepts it
(`Evaluators.matched_iff`). Rules that are alike accept the same, since thresholds that are equal as
numbers are in effect the same threshold (`Rule.Alike.accepts_iff`), and so do the rules of a watcher
before and after its time gate is moved (`ActiveSet.accepts_gate_iff`).
-/

namespace Watchtower

open Numeric (Single)

/-! ### Thresholds -/

namespace Numeric.Single

/-- A number to the right of the origin has no sign. -/
theorem place_eq_bits {x : Single} (h : 0 < x.place) : x.place = (x.bits.toNat : Int) := by
  have hbits := x.bits.toNat_lt
  unfold place at h ⊢
  split at h
  · omega
  · next hsign =>
    rw [if_neg hsign]
    simp only [isNegative, decide_eq_true_eq, Nat.not_le] at hsign
    rw [magnitude, Nat.mod_eq_of_lt hsign]

/-- At a place to the right of the origin there is one pattern. -/
theorem eq_of_place_eq {x y : Single} (h : 0 < x.place) (e : x.place = y.place) : x = y := by
  have hx := place_eq_bits h
  have hy := place_eq_bits (e ▸ h)
  have hbits : x.bits.toNat = y.bits.toNat := by omega
  cases x
  cases y
  exact congrArg Single.mk (UInt32.toNat_inj.1 hbits)

/-- Equal numbers are both positive or both not. -/
theorem eq_or_not_positive_of_equals {x y : Single} (h : x.equals y = true) :
    x = y ∨ x.isPositive = false ∧ y.isPositive = false := by
  simp only [equals, Bool.and_eq_true, beq_iff_eq] at h
  obtain ⟨-, hplace⟩ := h
  by_cases hpos : 0 < x.place
  · exact .inl (eq_of_place_eq hpos hplace)
  · refine .inr ⟨?_, ?_⟩
    · simp [isPositive, hpos]
    · rw [hplace] at hpos
      simp [isPositive, hpos]

end Numeric.Single

namespace Evaluators

/-- Thresholds that agree are in effect the same. -/
theorem effective_of_agrees (default : Single) {x y : Single} (h : x.Agrees y) :
    effective default x = effective default y := by
  rcases h with rfl | h
  · rfl
  rcases Numeric.Single.eq_or_not_positive_of_equals h with rfl | ⟨hx, hy⟩
  · rfl
  · simp [effective, hx, hy]

/-! ### What evaluators accept -/

/-- There is a query evaluator, and it accepts the attestation. -/
def AcceptsQuery (es : Evaluators) (predicate : String) (a : Attestation) : Prop :=
  ∃ evaluate ∈ es.query, evaluate predicate a = .ok true

/-- There is a similarity evaluator, and it accepts the attestation at the threshold in effect. -/
def AcceptsSimilarity (es : Evaluators) (default : Single) (query : String) (threshold : Single)
    (cluster : Option Int) (a : Attestation) : Prop :=
  ∃ evaluate ∈ es.similarity, evaluate query (effective default threshold) cluster a = .ok true

variable (es : Evaluators) (default : Single) (w : Watcher) (a : Attestation)

theorem matched_ofAnswer {asked : Consultation} {failed : Event} {answer : Except Fault Bool} :
    (Verdict.ofAnswer asked failed answer).matched = true ↔ answer = .ok true := by
  rcases answer with f | matched
  · simp [Verdict.ofAnswer]
  · simp [Verdict.ofAnswer]

theorem matched_askQuery (predicate : String) :
    (es.askQuery w a predicate).matched = true ↔ es.AcceptsQuery predicate a := by
  unfold askQuery AcceptsQuery
  cases es.query with
  | none => simp
  | some evaluate => simp [matched_ofAnswer]

theorem matched_askSimilarity (query : String) (threshold : Single) (cluster : Option Int) :
    (es.askSimilarity default w a query threshold cluster).matched = true ↔
      es.AcceptsSimilarity default query threshold cluster a := by
  unfold askSimilarity AcceptsSimilarity
  cases es.similarity with
  | none => simp
  | some evaluate => simp [matched_ofAnswer]

theorem acceptsSimilarity_of_agrees {query : String} {x y : Single} {cluster : Option Int}
    (h : x.Agrees y) (hx : es.AcceptsSimilarity default query x cluster a) :
    es.AcceptsSimilarity default query y cluster a := by
  rwa [AcceptsSimilarity, ← effective_of_agrees default h]

end Evaluators

/-! ### What rules accept -/

/-- What a rule asks of an attestation, the time gate left aside. -/
structure Rule.Accepts (es : Evaluators) (default : Single) (r : Rule) (a : Attestation) :
    Prop where
  actors : r.filter.actors.isEmpty = true ∨ a.hasAnyActor r.filter.actors.keys = true
  query : ∀ predicate ∈ r.query, es.AcceptsQuery predicate a
  /-- The similarity is asked only if there is no query. -/
  similarity : r.query = none → ∀ s ∈ r.similarity,
    es.AcceptsSimilarity default s.query s.threshold s.cluster a
  antecedent : ∀ u ∈ r.antecedent, es.AcceptsSimilarity default u.query u.threshold none a

namespace Evaluators

variable {es : Evaluators} {default : Single} {w : Watcher} {a : Attestation}

theorem matched_andThen {v : Verdict} {next : Unit → Verdict} :
    (v.andThen next).matched = true ↔ v.matched = true ∧ (next ()).matched = true := by
  unfold Verdict.andThen
  split <;> simp [*]

theorem matched_askFilter : (askFilter w a).matched = true ↔
    (w.rule.filter.actors.isEmpty = true ∨ a.hasAnyActor w.rule.filter.actors.keys = true) ∧
      w.rule.filter.admits a.timestamp = true := by
  unfold askFilter
  dsimp only
  split
  · next h =>
    obtain ⟨hempty, hactor⟩ := Bool.and_eq_true_iff.1 h
    rw [Bool.not_eq_true'] at hempty hactor
    simp [Verdict.plain, hempty, hactor]
  · next h =>
    have hactors : w.rule.filter.actors.isEmpty = true ∨
        a.hasAnyActor w.rule.filter.actors.keys = true := by
      rw [Bool.and_eq_true, Bool.not_eq_true', Bool.not_eq_true', not_and_or, Bool.not_eq_false,
        Bool.not_eq_false] at h
      exact h
    simp only [hactors, true_and]
    split
    · next hadmits => simp [Verdict.plain, hadmits]
    · next hadmits => simp [hadmits]

theorem matched_askPrimary : (es.askPrimary default w a).matched = true ↔
    (∀ predicate ∈ w.rule.query, es.AcceptsQuery predicate a) ∧
      (w.rule.query = none → ∀ s ∈ w.rule.similarity,
        es.AcceptsSimilarity default s.query s.threshold s.cluster a) := by
  unfold askPrimary
  cases w.rule.query with
  | some predicate => simp [matched_askQuery]
  | none =>
    cases w.rule.similarity with
    | some s => simp [matched_askSimilarity]
    | none => simp [Verdict.plain]

theorem matched_askAntecedent : (es.askAntecedent default w a).matched = true ↔
    ∀ u ∈ w.rule.antecedent, es.AcceptsSimilarity default u.query u.threshold none a := by
  unfold askAntecedent
  cases w.rule.antecedent with
  | some u => simp [matched_askSimilarity]
  | none => simp [Verdict.plain]

/-- A watcher matches exactly if its time gate admits the attestation and its rule accepts it. -/
theorem matched_iff : (es.judge default w a).matched = true ↔
    w.rule.filter.admits a.timestamp = true ∧ w.rule.Accepts es default a := by
  rw [judge, matched_andThen, matched_andThen, matched_askFilter, matched_askPrimary,
    matched_askAntecedent]
  constructor
  · rintro ⟨⟨hactors, hadmits⟩, ⟨hquery, hsimilarity⟩, hantecedent⟩
    exact ⟨hadmits, hactors, hquery, hsimilarity, hantecedent⟩
  · rintro ⟨hadmits, hactors, hquery, hsimilarity, hantecedent⟩
    exact ⟨⟨hactors, hadmits⟩, ⟨hquery, hsimilarity⟩, hantecedent⟩

end Evaluators

namespace Rule

variable {es : Evaluators} {default : Single} {a : Attestation}

/-- Where a rule accepts, so does one that is alike. -/
theorem Accepts.of_alike {r q : Rule} (h : r.Alike q) (hr : r.Accepts es default a) :
    q.Accepts es default a := by
  refine ⟨h.filter ▸ hr.actors, h.query ▸ hr.query, ?_, ?_⟩
  · intro hnone s hs
    obtain ⟨s', hs', hsame⟩ := exists_of_optionRel h.similarity hs
    have haccepts := hr.similarity (h.query.trans hnone) s' hs'
    rw [hsame.query, hsame.cluster] at haccepts
    exact es.acceptsSimilarity_of_agrees default a hsame.threshold haccepts
  · intro u hu
    obtain ⟨u', hu', hsame⟩ := exists_of_optionRel h.antecedent hu
    have haccepts := hr.antecedent u' hu'
    rw [hsame.query] at haccepts
    exact es.acceptsSimilarity_of_agrees default a hsame.threshold haccepts

/-- Rules that are alike accept the same. -/
theorem Alike.accepts_iff {r q : Rule} (h : r.Alike q) :
    r.Accepts es default a ↔ q.Accepts es default a := ⟨.of_alike h, .of_alike h.symm⟩

end Rule

/-! ### Time gates -/

namespace Moment

/-- Not before the later of two moments is not before either. -/
theorem not_before_later {t x y : Moment} :
    ¬ t.Before (x.later y) ↔ ¬ t.Before x ∧ ¬ t.Before y := by
  unfold later
  split
  · next h => exact ⟨fun k => ⟨k, fun hy => k (hy.trans h)⟩, And.left⟩
  · next h =>
    refine ⟨fun k => ⟨fun hx => k ?_, k⟩, And.right⟩
    unfold Before at *
    omega

end Moment

namespace ActiveSet

/-- Where the time gate of a watcher is has nothing to do with what its rule accepts. -/
theorem accepts_gate_iff {es : Evaluators} {default : Single} {w : Watcher} {start : Moment}
    {a : Attestation} :
    (gate w start).rule.Accepts es default a ↔ w.rule.Accepts es default a :=
  ⟨fun ⟨h₁, h₂, h₃, h₄⟩ => ⟨h₁, h₂, h₃, h₄⟩, fun ⟨h₁, h₂, h₃, h₄⟩ => ⟨h₁, h₂, h₃, h₄⟩⟩

end ActiveSet

end Watchtower
