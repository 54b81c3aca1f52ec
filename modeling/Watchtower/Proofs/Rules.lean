import Mathlib.Tactic.Common
import Watchtower.Watcher

/-!
Rules that are alike.

Stating the same (`Rule.same`) compares thresholds as numbers, so a rule with a threshold that is no
number does not state the same as itself. Two rules are alike if all fields agree and each pair of
thresholds is one pattern or one number (`Rule.Alike`). This is an equivalence, and rules that state
the same are alike.
-/

namespace Watchtower

/-! ### Thresholds -/

namespace Numeric.Single

/-- One pattern, or one number. -/
def Agrees (x y : Single) : Prop := x = y ∨ x.equals y = true

theorem equals_iff {x y : Single} :
    x.equals y = true ↔ x.isNaN = false ∧ y.isNaN = false ∧ x.place = y.place := by
  simp only [equals, Bool.and_eq_true, Bool.not_eq_true', beq_iff_eq, and_assoc]

theorem Agrees.refl (x : Single) : x.Agrees x := .inl rfl

theorem Agrees.symm {x y : Single} (h : x.Agrees y) : y.Agrees x := by
  rcases h with rfl | h
  · exact .refl x
  · obtain ⟨hx, hy, hplace⟩ := equals_iff.1 h
    exact .inr (equals_iff.2 ⟨hy, hx, hplace.symm⟩)

theorem Agrees.trans {x y z : Single} (h : x.Agrees y) (k : y.Agrees z) : x.Agrees z := by
  rcases h with rfl | h
  · exact k
  · rcases k with rfl | k
    · exact .inr h
    · obtain ⟨hx, -, hxy⟩ := equals_iff.1 h
      obtain ⟨-, hz, hyz⟩ := equals_iff.1 k
      exact .inr (equals_iff.2 ⟨hx, hz, hxy.trans hyz⟩)

end Numeric.Single

/-! ### Optional values -/

section

variable {α : Type} {R : α → α → Prop}

theorem optionRel_refl (h : ∀ v, R v v) (x : Option α) : Option.Rel R x x := by
  cases x with
  | none => exact .none
  | some v => exact .some (h v)

theorem optionRel_symm (h : ∀ u v, R u v → R v u) {x y : Option α} (hxy : Option.Rel R x y) :
    Option.Rel R y x := by
  cases hxy with
  | none => exact .none
  | some huv => exact .some (h _ _ huv)

theorem optionRel_trans (h : ∀ u v w, R u v → R v w → R u w) {x y z : Option α}
    (hxy : Option.Rel R x y) (hyz : Option.Rel R y z) : Option.Rel R x z := by
  cases hxy with
  | none => exact hyz
  | some huv =>
    cases hyz with
    | some hvw => exact .some (h _ _ _ huv hvw)

theorem rel_of_some {u v : α} (h : Option.Rel R (some u) (some v)) : R u v := by
  cases h with
  | some h => exact h

theorem isSome_eq_of_optionRel {x y : Option α} (h : Option.Rel R x y) : x.isSome = y.isSome := by
  cases h <;> rfl

theorem exists_of_optionRel {x y : Option α} (hxy : Option.Rel R x y) {v : α} (hv : v ∈ y) :
    ∃ u ∈ x, R u v := by
  cases hxy with
  | none => cases hv
  | some huv =>
    obtain rfl := Option.some.inj (Option.mem_def.1 hv)
    exact ⟨_, rfl, huv⟩

theorem optionRel_of_sameOption {same : α → α → Bool} (h : ∀ {u v}, same u v = true → R u v)
    {x y : Option α} (hxy : sameOption same x y = true) : Option.Rel R x y := by
  cases x <;> cases y <;> first | exact .none | exact .some (h hxy) | cases hxy

end

/-! ### Predicates -/

/-- The same predicate, its threshold one pattern or one number. -/
structure Similarity.Alike (s t : Similarity) : Prop where
  query : s.query = t.query
  threshold : s.threshold.Agrees t.threshold
  cluster : s.cluster = t.cluster

namespace Similarity.Alike

theorem refl (s : Similarity) : s.Alike s := ⟨rfl, .refl _, rfl⟩

theorem symm {s t : Similarity} (h : s.Alike t) : t.Alike s :=
  ⟨h.query.symm, h.threshold.symm, h.cluster.symm⟩

theorem trans {s t u : Similarity} (h : s.Alike t) (k : t.Alike u) : s.Alike u :=
  ⟨h.query.trans k.query, h.threshold.trans k.threshold, h.cluster.trans k.cluster⟩

theorem of_same {s t : Similarity} (h : s.same t = true) : s.Alike t := by
  simp only [same, Bool.and_eq_true, beq_iff_eq] at h
  exact ⟨h.1.1, .inr h.1.2, h.2⟩

end Similarity.Alike

/-- The same predicate, its threshold one pattern or one number. -/
structure Antecedent.Alike (s t : Antecedent) : Prop where
  query : s.query = t.query
  threshold : s.threshold.Agrees t.threshold

namespace Antecedent.Alike

theorem refl (s : Antecedent) : s.Alike s := ⟨rfl, .refl _⟩

theorem symm {s t : Antecedent} (h : s.Alike t) : t.Alike s :=
  ⟨h.query.symm, h.threshold.symm⟩

theorem trans {s t u : Antecedent} (h : s.Alike t) (k : t.Alike u) : s.Alike u :=
  ⟨h.query.trans k.query, h.threshold.trans k.threshold⟩

theorem of_same {s t : Antecedent} (h : s.same t = true) : s.Alike t := by
  simp only [same, Bool.and_eq_true, beq_iff_eq] at h
  exact ⟨h.1, .inr h.2⟩

end Antecedent.Alike

/-! ### Rules -/

/-- Every field agrees, thresholds as patterns or as numbers. -/
structure Rule.Alike (r q : Rule) : Prop where
  name : r.name = q.name
  enabled : r.enabled = q.enabled
  action : r.action = q.action
  payload : r.payload = q.payload
  filter : r.filter = q.filter
  query : r.query = q.query
  similarity : Option.Rel Similarity.Alike r.similarity q.similarity
  antecedent : Option.Rel Antecedent.Alike r.antecedent q.antecedent
  maxFires : r.maxFires = q.maxFires

namespace Rule.Alike

theorem refl (r : Rule) : r.Alike r :=
  ⟨rfl, rfl, rfl, rfl, rfl, rfl, optionRel_refl Similarity.Alike.refl _,
    optionRel_refl Antecedent.Alike.refl _, rfl⟩

theorem symm {r q : Rule} (h : r.Alike q) : q.Alike r :=
  ⟨h.name.symm, h.enabled.symm, h.action.symm, h.payload.symm, h.filter.symm, h.query.symm,
    optionRel_symm @Similarity.Alike.symm h.similarity,
    optionRel_symm @Antecedent.Alike.symm h.antecedent, h.maxFires.symm⟩

theorem trans {r q p : Rule} (h : r.Alike q) (k : q.Alike p) : r.Alike p :=
  ⟨h.name.trans k.name, h.enabled.trans k.enabled, h.action.trans k.action,
    h.payload.trans k.payload, h.filter.trans k.filter, h.query.trans k.query,
    optionRel_trans @Similarity.Alike.trans h.similarity k.similarity,
    optionRel_trans @Antecedent.Alike.trans h.antecedent k.antecedent, h.maxFires.trans k.maxFires⟩

/-- Rules that state the same are alike. -/
theorem of_same {r q : Rule} (h : r.same q = true) : r.Alike q := by
  simp only [same, Bool.and_eq_true, beq_iff_eq] at h
  obtain ⟨⟨⟨⟨⟨⟨⟨⟨hname, henabled⟩, haction⟩, hpayload⟩, hfilter⟩, hquery⟩, hsimilarity⟩,
    hantecedent⟩, hmax⟩ := h
  exact ⟨hname, henabled, haction, hpayload, hfilter, hquery,
    optionRel_of_sameOption Similarity.Alike.of_same hsimilarity,
    optionRel_of_sameOption Antecedent.Alike.of_same hantecedent, hmax⟩

theorem of_eq_or_same {r q : Rule} (h : r = q ∨ r.same q = true) : r.Alike q := by
  rcases h with rfl | hsame
  · exact refl r
  · exact of_same hsame

end Rule.Alike

end Watchtower
