import Mathlib.Algebra.Order.Field.Power
import Mathlib.Algebra.Order.Floor.Semifield
import Mathlib.Data.Rat.Floor
import Mathlib.Tactic.Linarith
import Mathlib.Tactic.Positivity
import Mathlib.Tactic.Ring
import Watchtower.Numeric.Double

/-!
Rounding what needs none.

A ratio that a pattern of a format stands for is rounded to this pattern, however it is written
(`Format.nearest_eq_pattern`). Every finite number in single precision is one in double precision as
well. So a number in single precision that is taken for a double and back is the same as before
(`Single.toSingle_ofSingle`).
-/

namespace Watchtower.Numeric

theorem pow2_add (a b : Nat) : pow2 (a + b) = pow2 a * pow2 b := Nat.pow_add 2 a b

theorem cast_pow2 (n : Nat) : ((pow2 n : Nat) : ℚ) = 2 ^ n := Nat.cast_pow 2 n

theorem two_zpow_lt_iff {a b : Int} : (2 : ℚ) ^ a < 2 ^ b ↔ a < b :=
  zpow_lt_zpow_iff_right₀ (by norm_num)

/-! ### Ratios -/

namespace Ratio

/-- The rational number that a ratio is. -/
def toRat (r : Ratio) : ℚ := r.num / r.den

theorem toRat_scale (r : Ratio) (q : Int) : (r.scale q).toRat = r.toRat * 2 ^ q := by
  unfold scale
  split
  · next hq =>
    obtain ⟨n, rfl⟩ := Int.eq_ofNat_of_zero_le hq
    simp [toRat, mul_div_right_comm]
  · next hq =>
    obtain ⟨n, hn⟩ := Int.eq_ofNat_of_zero_le (show 0 ≤ -q by omega)
    obtain rfl : q = -(n : Int) := by omega
    simp [toRat, div_eq_mul_inv, mul_assoc, mul_comm]

theorem den_scale_pos {r : Ratio} (h : 0 < r.den) (q : Int) : 0 < (r.scale q).den := by
  unfold scale
  split
  · exact h
  · exact Nat.mul_pos h (Nat.two_pow_pos _)

/-- A ratio that is a natural number is a multiple of its denominator. -/
theorem num_of_toRat_eq {r : Ratio} (hden : 0 < r.den) {n : Nat} (h : r.toRat = n) :
    r.num = n * r.den := by
  have hne : (r.den : ℚ) ≠ 0 := by exact_mod_cast hden.ne'
  rw [toRat, div_eq_iff hne] at h
  exact_mod_cast h

/-- A ratio that is a natural number is rounded to it. -/
theorem round_of_toRat_eq {r : Ratio} (hden : 0 < r.den) {n : Nat} (h : r.toRat = n) :
    r.round = n := by
  simp [round, num_of_toRat_eq hden h, hden]

/-- A positive ratio lies between the powers of two that its numerator and denominator tell. -/
theorem toRat_bounds {r : Ratio} (hnum : r.num ≠ 0) (hden : 0 < r.den) :
    (2 : ℚ) ^ ((r.num.log2 : Int) - r.den.log2 - 1) < r.toRat ∧
      r.toRat < 2 ^ ((r.num.log2 : Int) - r.den.log2 + 1) := by
  have hpos : (0 : ℚ) < r.den := by exact_mod_cast hden
  have hnumLow : (2 : ℚ) ^ r.num.log2 ≤ r.num := by exact_mod_cast Nat.log2_self_le hnum
  have hnumHigh : (r.num : ℚ) < 2 ^ (r.num.log2 + 1) := by exact_mod_cast Nat.lt_log2_self
  have hdenLow : (2 : ℚ) ^ r.den.log2 ≤ r.den := by exact_mod_cast Nat.log2_self_le hden.ne'
  have hdenHigh : (r.den : ℚ) < 2 ^ (r.den.log2 + 1) := by exact_mod_cast Nat.lt_log2_self
  constructor
  · rw [toRat, lt_div_iff₀ hpos]
    calc (2 : ℚ) ^ ((r.num.log2 : Int) - r.den.log2 - 1) * r.den
        < 2 ^ ((r.num.log2 : Int) - r.den.log2 - 1) * 2 ^ (r.den.log2 + 1) := by gcongr
      _ = 2 ^ r.num.log2 := by
        rw [← zpow_natCast, ← zpow_natCast, ← zpow_add₀ (by norm_num)]
        congr 1
        push_cast
        ring
      _ ≤ r.num := hnumLow
  · rw [toRat, div_lt_iff₀ hpos]
    calc (r.num : ℚ) < 2 ^ (r.num.log2 + 1) := hnumHigh
      _ = 2 ^ ((r.num.log2 : Int) - r.den.log2 + 1) * 2 ^ r.den.log2 := by
        rw [← zpow_natCast, ← zpow_natCast, ← zpow_add₀ (by norm_num)]
        congr 1
        push_cast
        ring
      _ ≤ 2 ^ ((r.num.log2 : Int) - r.den.log2 + 1) * r.den := by gcongr

end Ratio

/-! ### Patterns -/

namespace Format

/-- A significand and an exponent as a format has them: the significand has its leading bit unless
the exponent is the least one. -/
structure Fits (f : Format) (m : Nat) (q : Int) : Prop where
  precise : 0 < f.precision
  least : f.leastExponent ≤ q
  short : m < pow2 f.precision
  leading : q = f.leastExponent ∨ pow2 (f.precision - 1) ≤ m

/-- The pattern with a significand and an exponent. -/
def pattern (f : Format) (m : Nat) (q : Int) : Nat :=
  (q - f.leastExponent).toNat * pow2 (f.precision - 1) + m

variable {f : Format} {m p : Nat} {q : Int} {r : Ratio}

theorem pow2_precision (h : 0 < f.precision) : pow2 f.precision = 2 * pow2 (f.precision - 1) := by
  obtain ⟨n, hn⟩ := Nat.exists_eq_add_one_of_ne_zero h.ne'
  rw [hn, Nat.add_sub_cancel]
  exact Nat.pow_succ'

theorem num_eq_zero_iff (hden : 0 < r.den) (hr : r.toRat = m * 2 ^ q) : r.num = 0 ↔ m = 0 := by
  have hne : (r.den : ℚ) ≠ 0 := by exact_mod_cast hden.ne'
  have hpos : (2 : ℚ) ^ q ≠ 0 := by positivity
  have hzero : r.toRat = 0 ↔ (m : ℚ) = 0 := by rw [hr, mul_eq_zero, or_iff_left hpos]
  rw [Ratio.toRat, div_eq_zero_iff, or_iff_left hne] at hzero
  exact_mod_cast hzero

/-- Scaled to its exponent, the ratio is the significand. -/
theorem toRat_scale_neg (hr : r.toRat = m * 2 ^ q) : (r.scale (-q)).toRat = m := by
  rw [Ratio.toRat_scale, hr, mul_assoc, ← zpow_add₀ (by norm_num), add_neg_cancel, zpow_zero,
    mul_one]

theorem div_scale_neg (hden : 0 < r.den) (hr : r.toRat = m * 2 ^ q) :
    (r.scale (-q)).num / (r.scale (-q)).den = m := by
  have hden' := Ratio.den_scale_pos hden (-q)
  rw [Ratio.num_of_toRat_eq hden' (toRat_scale_neg hr), Nat.mul_div_cancel _ hden']

/-- The exponent that is tried first is the right one or the one before. -/
theorem guess_cases (h : f.Fits m q) (hnum : r.num ≠ 0) (hden : 0 < r.den)
    (hr : r.toRat = m * 2 ^ q) :
    max f.leastExponent ((r.num.log2 : Int) - r.den.log2 - f.precision) = q ∨
    max f.leastExponent ((r.num.log2 : Int) - r.den.log2 - f.precision) + 1 = q ∧
      pow2 (f.precision - 1) ≤ m := by
  obtain ⟨hlow, hhigh⟩ := Ratio.toRat_bounds hnum hden
  have habove : (r.num.log2 : Int) - r.den.log2 - 1 < f.precision + q := by
    refine two_zpow_lt_iff.1 (hlow.trans ?_)
    have hshort : (m : ℚ) < 2 ^ (f.precision : Int) := by
      rw [zpow_natCast]
      exact_mod_cast h.short
    rw [hr, zpow_add₀ (by norm_num)]
    gcongr
  have hbelow : pow2 (f.precision - 1) ≤ m →
      (f.precision : Int) - 1 + q < (r.num.log2 : Int) - r.den.log2 + 1 := by
    intro hleading
    refine two_zpow_lt_iff.1 (lt_of_le_of_lt ?_ hhigh)
    have hprecise := h.precise
    have hlead : (2 : ℚ) ^ ((f.precision : Int) - 1) ≤ m := by
      rw [show (f.precision : Int) - 1 = ((f.precision - 1 : Nat) : Int) by omega, zpow_natCast]
      exact_mod_cast hleading
    rw [hr, zpow_add₀ (by norm_num)]
    gcongr
  have hleast := h.least
  rcases h.leading with hq | hleading
  · left; omega
  · have := hbelow hleading
    by_cases hq : max f.leastExponent ((r.num.log2 : Int) - r.den.log2 - f.precision) = q
    · exact .inl hq
    · exact .inr ⟨by omega, hleading⟩

/-- What a pattern stands for is rounded to the pattern, however it is written. -/
theorem nearest_eq_pattern (h : f.Fits m q) (hden : 0 < r.den) (hr : r.toRat = m * 2 ^ q)
    (hfinite : f.pattern m q < f.infinity) : f.nearest r = f.pattern m q := by
  unfold nearest
  split
  · next hnum =>
    obtain rfl := (num_eq_zero_iff hden hr).1 hnum
    have hq : q = f.leastExponent := h.leading.resolve_right (Nat.not_le.2 (Nat.two_pow_pos _))
    simp [pattern, hq]
  · next hnum =>
    have hround : (r.scale (-q)).round = m :=
      Ratio.round_of_toRat_eq (Ratio.den_scale_pos hden _) (toRat_scale_neg hr)
    dsimp only
    -- the exponent is the one that was tried unless the ratio has one bit too many for it
    suffices hq : (if pow2 f.precision ≤
        (r.scale (-max f.leastExponent ((r.num.log2 : Int) - r.den.log2 - f.precision))).num /
          (r.scale (-max f.leastExponent ((r.num.log2 : Int) - r.den.log2 - f.precision))).den
        then max f.leastExponent ((r.num.log2 : Int) - r.den.log2 - f.precision) + 1
        else max f.leastExponent ((r.num.log2 : Int) - r.den.log2 - f.precision)) = q by
      rw [hq, hround]
      exact Nat.min_eq_right hfinite.le
    rcases guess_cases h hnum hden hr with hguess | ⟨hguess, hleading⟩
    · rw [hguess, div_scale_neg hden hr, if_neg (Nat.not_le.2 h.short)]
    · generalize max f.leastExponent ((r.num.log2 : Int) - r.den.log2 - f.precision) = guess at *
      subst hguess
      have hdouble : r.toRat = (2 * m : Nat) * 2 ^ guess := by
        rw [hr, zpow_add₀ (by norm_num)]
        push_cast
        ring
      have hpow := pow2_precision h.precise
      rw [div_scale_neg hden hdouble, if_pos (by omega)]

theorem toRat_value (f : Format) (p : Nat) :
    (f.value p).toRat = (f.parts p).1 * 2 ^ (f.parts p).2 := by
  show (Ratio.scale ⟨(f.parts p).1, 1⟩ (f.parts p).2).toRat = _
  rw [Ratio.toRat_scale]
  simp [Ratio.toRat]

theorem den_value_pos (f : Format) (p : Nat) : 0 < (f.value p).den :=
  Ratio.den_scale_pos (r := ⟨(f.parts p).1, 1⟩) Nat.one_pos _

theorem fits_parts (h : 0 < f.precision) (p : Nat) : f.Fits (f.parts p).1 (f.parts p).2 := by
  have hpos : 0 < pow2 (f.precision - 1) := Nat.two_pow_pos _
  have hpow := pow2_precision h
  have hmod := Nat.mod_lt p hpos
  unfold parts
  dsimp only
  split
  · next hfield =>
    have hp := (Nat.div_eq_zero_iff_lt hpos).1 hfield
    exact ⟨h, le_rfl, by omega, .inl rfl⟩
  · next hfield =>
    generalize p / pow2 (f.precision - 1) = field at hfield ⊢
    exact ⟨h, by omega, by omega, .inr (Nat.le_add_left _ _)⟩

theorem pattern_parts (f : Format) (p : Nat) : f.pattern (f.parts p).1 (f.parts p).2 = p := by
  unfold parts
  dsimp only
  split
  · simp [pattern]
  · next hfield =>
    have hp := Nat.div_add_mod p (pow2 (f.precision - 1))
    obtain ⟨k, hk⟩ := Nat.exists_eq_add_one_of_ne_zero hfield
    have hexponent : (f.leastExponent + ((k + 1 : Nat) : Int) - 1 - f.leastExponent).toNat = k := by
      omega
    rw [hk] at hp ⊢
    rw [pattern, hexponent]
    linarith

/-- A significand with its leading bit is read back. -/
theorem parts_pattern (h : f.Fits m q) (hleading : pow2 (f.precision - 1) ≤ m) :
    f.parts (f.pattern m q) = (m, q) := by
  have hpow := pow2_precision h.precise
  have hshort := h.short
  have hleast := h.least
  have hpattern : f.pattern m q = (m - pow2 (f.precision - 1)) +
      ((q - f.leastExponent).toNat + 1) * pow2 (f.precision - 1) := by
    rw [pattern, Nat.add_mul]
    omega
  have hrest : m - pow2 (f.precision - 1) < pow2 (f.precision - 1) := by omega
  have hpos : 0 < pow2 (f.precision - 1) := Nat.two_pow_pos _
  have hdiv : f.pattern m q / pow2 (f.precision - 1) = (q - f.leastExponent).toNat + 1 := by
    rw [hpattern, Nat.add_mul_div_right _ _ hpos, Nat.div_eq_of_lt hrest, Nat.zero_add]
  have hmod : f.pattern m q % pow2 (f.precision - 1) = m - pow2 (f.precision - 1) := by
    rw [hpattern, Nat.add_mul_mod_self_right, Nat.mod_eq_of_lt hrest]
  unfold parts
  dsimp only
  rw [hdiv, hmod, if_neg (Nat.succ_ne_zero _)]
  refine Prod.ext (Nat.sub_add_cancel hleading) ?_
  show f.leastExponent + (((q - f.leastExponent).toNat + 1 : Nat) : Int) - 1 = q
  omega

/-- What a finite pattern stands for is rounded to the pattern. -/
theorem nearest_value (h : 0 < f.precision) (hp : p < f.infinity) (hden : 0 < r.den)
    (hr : r.toRat = (f.value p).toRat) : f.nearest r = p := by
  have hpattern := f.pattern_parts p
  rw [nearest_eq_pattern (f.fits_parts h p) hden (hr.trans (f.toRat_value p)) (by rwa [hpattern]),
    hpattern]

/-! ### From single to double precision and back -/

/-- A significand can be shifted until its leading bit stands where that of a double does. -/
theorem exists_shift (hm : m ≠ 0) (hshort : m < pow2 single.precision) : ∃ k : Nat, k ≤ 52 ∧
    pow2 (double.precision - 1) ≤ m * pow2 k ∧ m * pow2 k < pow2 double.precision := by
  have hlog : m.log2 < 24 := (Nat.log2_lt hm).2 hshort
  refine ⟨52 - m.log2, Nat.sub_le _ _, ?_, ?_⟩
  · calc pow2 52 = pow2 m.log2 * pow2 (52 - m.log2) := by
          rw [← pow2_add, show m.log2 + (52 - m.log2) = 52 by omega]
      _ ≤ m * pow2 (52 - m.log2) := Nat.mul_le_mul_right _ (Nat.log2_self_le hm)
  · calc m * pow2 (52 - m.log2) < pow2 (m.log2 + 1) * pow2 (52 - m.log2) :=
          Nat.mul_lt_mul_of_pos_right Nat.lt_log2_self (Nat.two_pow_pos _)
      _ = pow2 53 := by
          rw [← pow2_add, show m.log2 + 1 + (52 - m.log2) = 53 by omega]

/-- Every finite number in single precision is one in double precision. -/
theorem exists_double (hp : p < single.infinity) : ∃ d, d < double.infinity ∧
    (double.value d).toRat = (single.value p).toRat := by
  have hsingle := single.fits_parts (by decide) p
  have hpattern := single.pattern_parts p
  rw [toRat_value single]
  generalize (single.parts p).1 = m at hsingle hpattern ⊢
  generalize (single.parts p).2 = q at hsingle hpattern ⊢
  by_cases hm : m = 0
  · refine ⟨0, by decide, ?_⟩
    rw [toRat_value, hm]
    simp [parts]
  · obtain ⟨k, hk, hleading, hshort⟩ := exists_shift hm hsingle.short
    have hleast : single.leastExponent = -149 := by decide
    have hleast' : double.leastExponent = -1074 := by decide
    have hq : q < 106 := by
      have hfield : (q - single.leastExponent).toNat * pow2 23 < 255 * pow2 23 :=
        (Nat.le_add_right _ _).trans_lt (hpattern.trans_lt hp)
      have hlt := Nat.lt_of_mul_lt_mul_right hfield
      omega
    have hfits : double.Fits (m * pow2 k) (q - k) := by
      have hq' := hsingle.least
      exact ⟨by decide, by omega, hshort, .inr hleading⟩
    refine ⟨double.pattern (m * pow2 k) (q - k), ?_, ?_⟩
    · have hfield : (q - k - double.leastExponent).toNat ≤ 1179 := by omega
      calc double.pattern (m * pow2 k) (q - k) < 1179 * pow2 52 + pow2 53 :=
            Nat.add_lt_add_of_le_of_lt (Nat.mul_le_mul_right _ hfield) hshort
        _ ≤ double.infinity := by decide
    · rw [toRat_value, parts_pattern hfits hleading]
      have hsplit : (2 : ℚ) ^ q = 2 ^ k * 2 ^ (q - k) := by
        rw [← zpow_natCast, ← zpow_add₀ (by norm_num), add_sub_cancel]
      rw [hsplit, Nat.cast_mul, cast_pow2]
      ring

theorem convert_convert (hp : p ≤ single.infinity) :
    double.convert single (single.convert double p) = p := by
  rcases Nat.lt_or_eq_of_le hp with hp | rfl
  · obtain ⟨d, hd, hvalue⟩ := exists_double hp
    have hwide : single.convert double p = d := by
      rw [convert, if_pos hp]
      exact nearest_value (by decide) hd (den_value_pos _ _) hvalue.symm
    rw [hwide, convert, if_pos hd]
    exact nearest_value (by decide) hp (den_value_pos _ _) hvalue
  · decide +kernel

end Format

namespace Single

/-- A pattern is its sign and its magnitude. -/
theorem ofMagnitude_self (x : Single) : ofMagnitude x.isNegative x.magnitude = x := by
  have hbound : x.bits.toNat < 4294967296 := x.bits.toNat_lt
  have hsign : pow2 31 = 2147483648 := rfl
  have hbits : x.magnitude % pow2 31 + (if x.isNegative then pow2 31 else 0) = x.bits.toNat := by
    simp only [magnitude, isNegative, hsign, decide_eq_true_eq]
    split <;> omega
  rw [ofMagnitude, hbits, UInt32.ofNat_toNat]

/-- A number in single precision is the same number after it has been taken for a double. -/
theorem toSingle_ofSingle {x : Single} (h : x.isNaN = false) :
    (Double.ofSingle x).toSingle = x := by
  have hp : x.magnitude ≤ Format.single.infinity := by simpa [isNaN] using h
  show ofMagnitude x.isNegative (Format.double.convert .single
    (Format.single.convert .double x.magnitude)) = x
  rw [Format.convert_convert hp, ofMagnitude_self]

/-- What is no number stays none. -/
theorem isNaN_toSingle_ofSingle {x : Single} (h : x.isNaN = true) :
    (Double.ofSingle x).toSingle.isNaN = true := by
  have hp : Format.single.infinity < x.magnitude := of_decide_eq_true h
  have hwide : Format.single.convert .double x.magnitude = Format.double.infinity + pow2 51 := by
    rw [Format.convert, if_neg hp.not_gt, if_neg hp.ne']
    rfl
  show (ofMagnitude x.isNegative (Format.double.convert .single
    (Format.single.convert .double x.magnitude))).isNaN = true
  rw [hwide]
  cases x.isNegative <;> decide +kernel

end Single

end Watchtower.Numeric
