import FeatureFlags.Double.Shortest
import Mathlib.Algebra.Order.Field.Power
import Mathlib.Data.Int.Log
import Mathlib.Data.Rat.Floor
import Mathlib.Tactic.FieldSimp
import Mathlib.Tactic.Linarith
import Mathlib.Tactic.NormNum
import Mathlib.Tactic.Positivity
import Mathlib.Tactic.Ring

/-!
# The value of what is rounded

Rounding works on naturals, but what comes out depends on the quotient alone
(`nearestMagnitude_congr`), and a quotient that a finite number equals is rounded to that number
(`nearestMagnitude_of_exact`). Of a decimal nothing but its value matters (`ofDecimal_congr`): the
exponents that are answered without computing the power are answered as the power would be.
-/
namespace FeatureFlags.Double

/-! ## Quotients to the nearest natural -/

theorem roundQuotient_scale (num den : Nat) {k : Nat} (hk : 0 < k) :
    roundQuotient (num * k) (den * k) = roundQuotient num den := by
  have hdiv : num * k / (den * k) = num / den := Nat.mul_div_mul_right num den hk
  have hmod : num * k % (den * k) = num % den * k := Nat.mul_mod_mul_right k num den
  have hlt : den * k < 2 * (num % den * k) ↔ den < 2 * (num % den) := by
    rw [← Nat.mul_assoc]
    exact Nat.mul_lt_mul_right hk
  have heq : 2 * (num % den * k) = den * k ↔ 2 * (num % den) = den := by
    rw [← Nat.mul_assoc]
    exact Nat.mul_left_inj hk.ne'
  simp only [roundQuotient, hdiv, hmod, hlt, heq]

theorem roundQuotient_congr {num den num' den' : Nat} (hden : 0 < den) (hden' : 0 < den')
    (h : num * den' = num' * den) : roundQuotient num den = roundQuotient num' den' := by
  rw [← roundQuotient_scale num den hden', ← roundQuotient_scale num' den' hden, h,
    Nat.mul_comm den den']

theorem roundQuotient_mul (n : Nat) {den : Nat} (hden : 0 < den) :
    roundQuotient (n * den) den = n := by
  have hdiv : n * den / den = n := Nat.mul_div_cancel n hden
  have hmod : n * den % den = 0 := Nat.mul_mod_left n den
  have hdown : ¬(den < 2 * 0 ∨ 2 * 0 = den ∧ n % 2 = 1) := by omega
  simp only [roundQuotient, hdiv, hmod, if_neg hdown]

theorem le_roundQuotient {n num den : Nat} (hden : 0 < den) (h : n * den ≤ num) :
    n ≤ roundQuotient num den := by
  have hdiv : n ≤ num / den := (Nat.le_div_iff_mul_le hden).2 h
  simp only [roundQuotient]
  split <;> omega

theorem roundQuotient_le {n num den : Nat} (hden : 0 < den) (h : num < n * den) :
    roundQuotient num den ≤ n := by
  have hdiv : num / den < n := (Nat.div_lt_iff_lt_mul hden).2 h
  simp only [roundQuotient]
  split <;> omega

theorem roundQuotient_eq_zero {num den : Nat} (h : 2 * num < den) : roundQuotient num den = 0 := by
  have hdiv : num / den = 0 := Nat.div_eq_of_lt (by omega)
  have hmod : num % den = num := Nat.mod_eq_of_lt (by omega)
  have hdown : ¬(den < 2 * num ∨ 2 * num = den ∧ 0 % 2 = 1) := by omega
  simp only [roundQuotient, hdiv, hmod, if_neg hdown]

/-! ## Powers with exponents of either sign -/

/-- An exponent is applied above or below the line, as its sign says. -/
theorem quotient_toNat {b : Nat} (hb : b ≠ 0) (num den : Nat) (e : Int) :
    ((num * b ^ e.toNat : Nat) : ℚ) / ((den * b ^ (-e).toNat : Nat) : ℚ) =
      (num : ℚ) / den * (b : ℚ) ^ e := by
  have hbase : (b : ℚ) ≠ 0 := Nat.cast_ne_zero.2 hb
  have hsplit : (b : ℚ) ^ e = (b : ℚ) ^ e.toNat / (b : ℚ) ^ (-e).toNat := by
    rw [← zpow_natCast, ← zpow_natCast, ← zpow_sub₀ hbase]
    congr 1
    omega
  rw [hsplit]
  push_cast
  rw [mul_div_mul_comm]

theorem quotient_at (num den : Nat) (scale : Int) :
    ((num * 2 ^ (-scale).toNat : Nat) : ℚ) / ((den * 2 ^ scale.toNat : Nat) : ℚ) =
      (num : ℚ) / den / 2 ^ scale := by
  have h := quotient_toNat two_ne_zero num den (-scale)
  rw [neg_neg, zpow_neg, ← div_eq_mul_inv] at h
  exact h

theorem denominator_pos {den : Nat} (hden : 0 < den) (scale : Int) : 0 < den * 2 ^ scale.toNat :=
  Nat.mul_pos hden (Nat.two_pow_pos _)

/-- A logarithm is what its powers enclose. -/
theorem log_eq {q : ℚ} (hq : 0 < q) {e : Int} (hlow : (2 : ℚ) ^ e ≤ q)
    (hhigh : q < (2 : ℚ) ^ (e + 1)) : Int.log 2 q = e := by
  have h₁ : e ≤ Int.log 2 q := (Int.zpow_le_iff_le_log (by decide) hq).1 (mod_cast hlow)
  have h₂ : Int.log 2 q < e + 1 := (Int.lt_zpow_iff_log_lt (by decide) hq).1 (mod_cast hhigh)
  omega

variable {num den num' den' : Nat}

theorem pos_of_quotient (h : (0 : ℚ) < num / den) : 0 < num := by
  refine Nat.pos_of_ne_zero fun hnum => ?_
  rw [hnum, Nat.cast_zero, zero_div] at h
  exact lt_irrefl _ h

theorem floorLog_eq (hnum : 0 < num) (hden : 0 < den) :
    floorLog num den = Int.log 2 ((num : ℚ) / den) := by
  have hnumQ : (0 : ℚ) < num := Nat.cast_pos.2 hnum
  have hdenQ : (0 : ℚ) < den := Nat.cast_pos.2 hden
  have hquotient : (0 : ℚ) < num / den := div_pos hnumQ hdenQ
  have hn : (2 : ℚ) ^ num.log2 ≤ num := mod_cast Nat.log2_self_le hnum.ne'
  have hn' : (num : ℚ) < 2 ^ (num.log2 + 1) := mod_cast Nat.lt_log2_self (n := num)
  have hd : (2 : ℚ) ^ den.log2 ≤ den := mod_cast Nat.log2_self_le hden.ne'
  have hd' : (den : ℚ) < 2 ^ (den.log2 + 1) := mod_cast Nat.lt_log2_self (n := den)
  -- the difference of the logarithms is too large by one at most
  have hlow : (2 : ℚ) ^ ((num.log2 : Int) - den.log2 - 1) ≤ num / den := by
    rw [sub_sub, zpow_sub₀ two_ne_zero, zpow_natCast]
    exact div_le_div₀ hnumQ.le hn hdenQ (mod_cast hd'.le)
  have hhigh : (num : ℚ) / den < 2 ^ ((num.log2 : Int) - den.log2 + 1) := by
    rw [sub_add_eq_add_sub, zpow_sub₀ two_ne_zero, zpow_natCast]
    exact div_lt_div₀ (mod_cast hn') hd (by positivity) (by positivity)
  have hbelow : num * 2 ^ (-((num.log2 : Int) - den.log2)).toNat <
      den * 2 ^ ((num.log2 : Int) - den.log2).toNat ↔
      (num : ℚ) / den < 2 ^ ((num.log2 : Int) - den.log2) := by
    have hshift := quotient_at num den ((num.log2 : Int) - den.log2)
    have hpos : (0 : ℚ) < ((den * 2 ^ ((num.log2 : Int) - den.log2).toNat : Nat) : ℚ) :=
      Nat.cast_pos.2 (denominator_pos hden _)
    rw [← Nat.cast_lt (α := ℚ), ← div_lt_one hpos, hshift, div_lt_one (by positivity)]
  simp only [floorLog, Nat.pow_eq]
  split
  next h =>
    refine (log_eq hquotient hlow ?_).symm
    rw [sub_add_cancel]
    exact hbelow.1 h
  next h => exact (log_eq hquotient (not_lt.1 fun hlt => h (hbelow.2 hlt)) hhigh).symm

/-! ## The nearest magnitude -/

/-- The scale to which a quotient is rounded. -/
def grain (num den : Nat) : Int := max (floorLog num den - 52) (-1074)

/-- The significand at a scale. -/
def significandAt (num den : Nat) (scale : Int) : Nat :=
  roundQuotient (num * 2 ^ (-scale).toNat) (den * 2 ^ scale.toNat)

theorem nearestMagnitude_zero (den : Nat) : nearestMagnitude 0 den = 0 := if_pos rfl

theorem nearestMagnitude_eq (hnum : 0 < num) : nearestMagnitude num den =
    (grain num den + 1074).toNat * leadingBit + significandAt num den (grain num den) :=
  if_neg hnum.ne'

section

variable {n : Nat} {scale : Int}

theorem significandAt_of_eq (hden : 0 < den) (h : (num : ℚ) / den / 2 ^ scale = n) :
    significandAt num den scale = n := by
  have hpos := denominator_pos hden scale
  rw [← quotient_at, div_eq_iff (Nat.cast_ne_zero.2 hpos.ne')] at h
  rw [significandAt, Nat.cast_injective (R := ℚ) (h.trans (Nat.cast_mul n _).symm)]
  exact roundQuotient_mul n hpos

theorem le_significandAt (hden : 0 < den) (h : (n : ℚ) ≤ num / den / 2 ^ scale) :
    n ≤ significandAt num den scale := by
  have hpos := denominator_pos hden scale
  rw [← quotient_at, le_div_iff₀ (Nat.cast_pos.2 hpos)] at h
  exact le_roundQuotient hpos (mod_cast h)

theorem significandAt_le (hden : 0 < den) (h : (num : ℚ) / den / 2 ^ scale < n) :
    significandAt num den scale ≤ n := by
  have hpos := denominator_pos hden scale
  rw [← quotient_at, div_lt_iff₀ (Nat.cast_pos.2 hpos)] at h
  exact roundQuotient_le hpos (mod_cast h)

theorem significandAt_eq_zero (hden : 0 < den) (h : (num : ℚ) / den / 2 ^ scale < 1 / 2) :
    significandAt num den scale = 0 := by
  have hpos := denominator_pos hden scale
  rw [← quotient_at, div_lt_div_iff₀ (Nat.cast_pos.2 hpos) two_pos, one_mul, mul_comm] at h
  exact roundQuotient_eq_zero (mod_cast h)

end

theorem significandAt_congr (hden : 0 < den) (hden' : 0 < den')
    (h : (num : ℚ) / den = num' / den') (scale : Int) :
    significandAt num den scale = significandAt num' den' scale := by
  have hpos := denominator_pos hden scale
  have hpos' := denominator_pos hden' scale
  have hsame := (quotient_at num den scale).trans ((congrArg (· / (2 : ℚ) ^ scale) h).trans
    (quotient_at num' den' scale).symm)
  rw [div_eq_div_iff (Nat.cast_ne_zero.2 hpos.ne') (Nat.cast_ne_zero.2 hpos'.ne')] at hsame
  exact roundQuotient_congr hpos hpos' (by exact_mod_cast hsame)

/-- Only the quotient matters. -/
theorem nearestMagnitude_congr (hden : 0 < den) (hden' : 0 < den')
    (h : (num : ℚ) / den = num' / den') :
    nearestMagnitude num den = nearestMagnitude num' den' := by
  have hdenQ : (0 : ℚ) < den := Nat.cast_pos.2 hden
  have hdenQ' : (0 : ℚ) < den' := Nat.cast_pos.2 hden'
  rcases Nat.eq_zero_or_pos num with rfl | hnum
  · have hzero : num' = 0 := by
      rw [Nat.cast_zero, zero_div, eq_comm, div_eq_zero_iff] at h
      exact Nat.cast_eq_zero.1 (h.resolve_right hdenQ'.ne')
    rw [hzero, nearestMagnitude_zero, nearestMagnitude_zero]
  · have hnum' : 0 < num' := by
      have hpos : (0 : ℚ) < num / den := by positivity
      rw [h] at hpos
      exact pos_of_quotient hpos
    have hgrain : grain num den = grain num' den' := by
      rw [grain, grain, floorLog_eq hnum hden, floorLog_eq hnum' hden', h]
    rw [nearestMagnitude_eq hnum, nearestMagnitude_eq hnum', hgrain,
      significandAt_congr hden hden' h]

theorem floorLog_of_exact (hden : 0 < den) {s : Nat} {k : Int} (hs : 0 < s)
    (h : (num : ℚ) / den = s * 2 ^ k) : floorLog num den = s.log2 + k := by
  have hpos : (0 : ℚ) < num / den := by
    rw [h]
    positivity
  have hlow : (2 : ℚ) ^ s.log2 ≤ s := mod_cast Nat.log2_self_le hs.ne'
  have hhigh : (s : ℚ) < 2 ^ (s.log2 + 1) := mod_cast Nat.lt_log2_self (n := s)
  rw [floorLog_eq (pos_of_quotient hpos) hden]
  refine log_eq hpos ?_ ?_
  · rw [h, zpow_add₀ two_ne_zero, zpow_natCast]
    exact mul_le_mul_of_nonneg_right hlow (by positivity)
  · rw [h, add_right_comm, zpow_add₀ two_ne_zero]
    exact mul_lt_mul_of_pos_right (mod_cast hhigh) (by positivity)

/-- A quotient that the format holds exactly is rounded to itself. -/
theorem nearestMagnitude_of_exact (hden : 0 < den) {s : Nat} {k : Int} (hs : 0 < s)
    (hsmall : s < 2 * leadingBit) (hk : -1074 ≤ k) (hfull : leadingBit ≤ s ∨ k = -1074)
    (h : (num : ℚ) / den = s * 2 ^ k) :
    nearestMagnitude num den = (k + 1074).toNat * leadingBit + s := by
  have hnum : 0 < num := by
    have hpos : (0 : ℚ) < num / den := by
      rw [h]
      positivity
    exact pos_of_quotient hpos
  have hbits : s.log2 < 53 := (Nat.log2_lt hs.ne').2 hsmall
  have hgrain : grain num den = k := by
    rw [grain, floorLog_of_exact hden hs h]
    rcases hfull with hfull | rfl
    · have hleading : 52 ≤ s.log2 := (Nat.le_log2 hs.ne').2 hfull
      omega
    · omega
  have hsignificand : significandAt num den k = s := by
    refine significandAt_of_eq hden ?_
    rw [h, mul_div_cancel_right₀ _ (by positivity)]
  rw [nearestMagnitude_eq hnum, hgrain, hsignificand]

/-! ## The range of the format -/

theorem le_floorLog_iff (hnum : 0 < num) (hden : 0 < den) {e : Int} :
    e ≤ floorLog num den ↔ (2 : ℚ) ^ e ≤ num / den := by
  have hpos : (0 : ℚ) < num / den := div_pos (Nat.cast_pos.2 hnum) (Nat.cast_pos.2 hden)
  rw [floorLog_eq hnum hden]
  exact (Int.zpow_le_iff_le_log (by decide) hpos).symm.trans (by rw [Nat.cast_ofNat])

theorem grain_of_le (hlow : -1022 ≤ floorLog num den) :
    grain num den = floorLog num den - 52 := by
  rw [grain]
  omega

theorem grain_of_lt (hhigh : floorLog num den < -1022) : grain num den = -1074 := by
  rw [grain]
  omega

theorem leadingBit_le_significand (hnum : 0 < num) (hden : 0 < den)
    (hlow : -1022 ≤ floorLog num den) : leadingBit ≤ significandAt num den (grain num den) := by
  have hleading : (leadingBit : ℚ) = 2 ^ (52 : Int) := by norm_num [leadingBit]
  refine le_significandAt hden ?_
  rw [grain_of_le hlow, hleading, le_div_iff₀ (by positivity), ← zpow_add₀ two_ne_zero,
    add_sub_cancel]
  exact (le_floorLog_iff hnum hden).1 le_rfl

theorem significand_le (hnum : 0 < num) (hden : 0 < den) :
    significandAt num den (grain num den) ≤ 2 * leadingBit := by
  have hlimit : ((2 * leadingBit : Nat) : ℚ) = 2 ^ (53 : Int) := by norm_num [leadingBit]
  have hgrain : floorLog num den < 53 + grain num den := by
    rw [grain]
    omega
  refine significandAt_le hden ?_
  rw [hlimit, div_lt_iff₀ (by positivity), ← zpow_add₀ two_ne_zero, ← not_le,
    ← le_floorLog_iff hnum hden]
  exact not_le.2 hgrain

theorem infinite_le_nearestMagnitude (hnum : 0 < num) (hden : 0 < den)
    (h : (2 : ℚ) ^ (1024 : Int) ≤ num / den) : infiniteMagnitude ≤ nearestMagnitude num den := by
  have hfloor : 1024 ≤ floorLog num den := (le_floorLog_iff hnum hden).2 h
  have hsignificand := leadingBit_le_significand hnum hden (by omega)
  have hscale : 2046 ≤ (grain num den + 1074).toNat := by
    rw [grain]
    omega
  have hmul := Nat.mul_le_mul_right leadingBit hscale
  rw [nearestMagnitude_eq hnum, infiniteMagnitude]
  omega

theorem nearestMagnitude_lt_infinite (hden : 0 < den)
    (h : (num : ℚ) / den < 2 ^ (1023 : Int)) : nearestMagnitude num den < infiniteMagnitude := by
  rcases Nat.eq_zero_or_pos num with rfl | hnum
  · rw [nearestMagnitude_zero]
    decide
  have hfloor : floorLog num den < 1023 := by
    rw [← not_le, le_floorLog_iff hnum hden]
    exact not_le.2 h
  have hsignificand := significand_le hnum hden
  have hscale : (grain num den + 1074).toNat ≤ 2044 := by
    rw [grain]
    omega
  have hmul := Nat.mul_le_mul_right leadingBit hscale
  have hpos : 0 < leadingBit := by decide
  rw [nearestMagnitude_eq hnum, infiniteMagnitude]
  omega

theorem nearestMagnitude_eq_zero (hden : 0 < den)
    (h : (num : ℚ) / den < 2 ^ (-1075 : Int)) : nearestMagnitude num den = 0 := by
  rcases Nat.eq_zero_or_pos num with rfl | hnum
  · exact nearestMagnitude_zero den
  have hfloor : floorLog num den < -1075 := by
    rw [← not_le, le_floorLog_iff hnum hden]
    exact not_le.2 h
  have hsignificand : significandAt num den (-1074) = 0 := by
    refine significandAt_eq_zero hden ?_
    rw [div_lt_iff₀ (by positivity)]
    refine lt_of_lt_of_eq h ?_
    rw [one_div, ← zpow_neg_one, ← zpow_add₀ two_ne_zero]
    rfl
  rw [nearestMagnitude_eq hnum, grain_of_lt (by omega), hsignificand]
  rfl

theorem ofInt_isFinite {i : Int} (h : i.natAbs < 2 ^ 64) : (ofInt i).isFinite = true := by
  have hquotient : ((i.natAbs : Nat) : ℚ) / (1 : Nat) < 2 ^ (1023 : Int) := by
    have hsmall : (i.natAbs : ℚ) < 2 ^ 64 := mod_cast h
    rw [Nat.cast_one, div_one]
    exact hsmall.trans (zpow_lt_zpow_right₀ (m := 64) (by norm_num) (by decide))
  have hfinite := nearestMagnitude_lt_infinite one_pos hquotient
  rw [ofInt, ofRatio, ofMagnitude, dif_pos hfinite]
  exact decide_eq_true hfinite

end FeatureFlags.Double
