import FeatureFlags.Proofs.Double.Shortest

/-!
# The values of finite numbers

Finite numbers agree if they stand for the same rational number (`agrees_iff`). An integer of 64
bits is rounded to a number than which none is nearer to it (`ofInt_nearest`). Integers up to 2^53
are numbers themselves, and those below that bound share their number with no other integer
(`eq_of_value_ofInt`).
-/
namespace FeatureFlags.Double

variable {x y : Double}

/-- The value of a finite number, up to sign. -/
def modulus (x : Double) : ℚ := x.significand * 2 ^ x.scale

/-- The value of a finite number. -/
def value (x : Double) : ℚ := if x.negative then -x.modulus else x.modulus

theorem modulus_nonneg (x : Double) : 0 ≤ x.modulus := by
  unfold modulus
  positivity

theorem abs_value (x : Double) : |x.value| = x.modulus := by
  unfold value
  split
  · rw [abs_neg, abs_of_nonneg x.modulus_nonneg]
  · exact abs_of_nonneg x.modulus_nonneg

/-! ## Equal values -/

theorem exists_quotient (x : Double) :
    ∃ num den : Nat, 0 < den ∧ (num : ℚ) / den = x.modulus := by
  have h := quotient_toNat two_ne_zero x.significand 1 x.scale
  refine ⟨_, _, denominator_pos one_pos (-x.scale), h.trans ?_⟩
  simp [modulus]

/-- Numbers of the same value up to sign have the same magnitude. -/
theorem magnitude_of_modulus (h : x.modulus = y.modulus) : x.magnitude = y.magnitude := by
  obtain ⟨num, den, hden, hquotient⟩ := x.exists_quotient
  have hx := nearestMagnitude_of_value hden hquotient
  have hy := nearestMagnitude_of_value hden (hquotient.trans h)
  exact Fin.ext (hx.symm.trans hy)

theorem modulus_zero (x : Double) (h : x.isZero = true) : x.modulus = 0 := by
  have hmagnitude : x.magnitude.val = 0 := by simpa [isZero] using h
  have hlow : x.magnitude.val < leadingBit := by
    rw [hmagnitude]
    decide
  rw [modulus, (fields_of_lt hlow).1, hmagnitude]
  simp

theorem isZero_iff (x : Double) : x.isZero = true ↔ x.value = 0 := by
  rw [← abs_eq_zero, abs_value]
  constructor
  · exact x.modulus_zero
  · intro h
    have hzero : x.magnitude = (zero false).magnitude :=
      magnitude_of_modulus (h.trans ((zero false).modulus_zero rfl).symm)
    simp [isZero, hzero, zero]

theorem not_isNaN (h : x.isFinite = true) : x.isNaN = false := by
  unfold isFinite at h
  unfold isNaN
  simp at h ⊢
  omega

theorem value_of_other_sign (hsign : x.negative ≠ y.negative) (h : x.modulus = y.modulus) :
    x.value = -y.value := by
  unfold value
  rw [h]
  cases hx : x.negative <;> cases hy : y.negative <;> simp [hx, hy] at hsign ⊢

/-- Finite numbers agree if they have the same value. -/
theorem agrees_iff (hx : x.isFinite = true) (hy : y.isFinite = true) :
    x.agrees y = true ↔ x.value = y.value := by
  have hagrees : x.agrees y = true ↔ x = y ∨ x.value = 0 ∧ y.value = 0 := by
    simp [agrees, not_isNaN hx, not_isNaN hy, ← isZero_iff]
  rw [hagrees]
  constructor
  · rintro (rfl | ⟨hx, hy⟩)
    · rfl
    · rw [hx, hy]
  · intro h
    have hmodulus : x.modulus = y.modulus := by rw [← abs_value, ← abs_value, h]
    by_cases hsign : x.negative = y.negative
    · have hmagnitude := magnitude_of_modulus hmodulus
      left
      cases x
      cases y
      simp_all
    · -- numbers of different signs have the same value only if both are zero
      right
      have hother := value_of_other_sign hsign hmodulus
      constructor <;> linarith

/-! ## Rounding to a multiple of a power of two -/

variable {num den : Nat}

theorem roundQuotient_sub_le (num : Nat) (hden : 0 < den) :
    |(roundQuotient num den : ℚ) - num / den| ≤ 1 / 2 := by
  have hdenQ : (0 : ℚ) < den := Nat.cast_pos.2 hden
  have hdivmod : (den : ℚ) * (num / den : Nat) + (num % den : Nat) = num :=
    mod_cast Nat.div_add_mod num den
  have hquotient : (num : ℚ) / den = (num / den : Nat) + ((num % den : Nat) : ℚ) / den := by
    rw [← hdivmod]
    field_simp
  have hrest : ((num % den : Nat) : ℚ) / den ≤ 1 :=
    (div_le_one hdenQ).2 (mod_cast (Nat.mod_lt num hden).le)
  rw [hquotient, abs_le]
  simp only [roundQuotient]
  split
  next hup =>
    have hhalf : (1 : ℚ) / 2 ≤ ((num % den : Nat) : ℚ) / den := by
      rw [div_le_div_iff₀ two_pos hdenQ, one_mul]
      have hle : den ≤ num % den * 2 := by omega
      exact_mod_cast hle
    push_cast
    constructor <;> linarith
  next hdown =>
    have hhalf : ((num % den : Nat) : ℚ) / den ≤ 1 / 2 := by
      rw [div_le_div_iff₀ hdenQ two_pos, one_mul]
      have hle : num % den * 2 ≤ den := by omega
      exact_mod_cast hle
    have hpos : (0 : ℚ) ≤ ((num % den : Nat) : ℚ) / den := by positivity
    constructor <;> linarith

/-- No integer is nearer to a quotient than the one to which it is rounded. -/
theorem roundQuotient_nearest (hden : 0 < den) (m : Int) :
    |(roundQuotient num den : ℚ) - num / den| ≤ |(m : ℚ) - num / den| := by
  by_cases h : m = roundQuotient num den
  · rw [h, Int.cast_natCast]
  · have hapart : (1 : ℚ) ≤ |(m : ℚ) - roundQuotient num den| := by
      have hone : 1 ≤ |m - roundQuotient num den| := Int.one_le_abs (sub_ne_zero.2 h)
      exact_mod_cast hone
    have hhalf := roundQuotient_sub_le num hden
    have htriangle := abs_sub_le (m : ℚ) (num / den) (roundQuotient num den)
    rw [abs_sub_comm ((num : ℚ) / den)] at htriangle
    linarith

/-- No multiple of a power of two is nearer than the one to which a quotient is rounded. -/
theorem significandAt_nearest (num : Nat) (hden : 0 < den) (scale m : Int) :
    |(significandAt num den scale : ℚ) * 2 ^ scale - num / den| ≤
      |(m : ℚ) * 2 ^ scale - num / den| := by
  have hpos : (0 : ℚ) < 2 ^ scale := by positivity
  have hscaled (z : ℚ) : |z * 2 ^ scale - num / den| = |z - num / den / 2 ^ scale| * 2 ^ scale := by
    rw [← abs_of_pos hpos, ← abs_mul, abs_of_pos hpos, sub_mul, div_mul_cancel₀ _ hpos.ne']
  rw [hscaled, hscaled, ← quotient_at]
  exact mul_le_mul_of_nonneg_right (roundQuotient_nearest (denominator_pos hden scale) m) hpos.le

/-! ## The nearest number -/

/-- The number of a significand at a scale. A significand may carry over. -/
theorem modulus_of_magnitude {s : Nat} {k : Int} (hs : s ≤ 2 * leadingBit) (hk : -1074 ≤ k)
    (hfull : leadingBit ≤ s ∨ k = -1074)
    (h : x.magnitude.val = (k + 1074).toNat * leadingBit + s) : x.modulus = s * 2 ^ k := by
  have hpos : 0 < leadingBit := by decide
  by_cases hlow : s < leadingBit
  · obtain rfl : k = -1074 := by omega
    have hmagnitude : x.magnitude.val = s := by simpa using h
    obtain ⟨hsignificand, hscale⟩ := fields_of_lt (hmagnitude ▸ hlow)
    rw [modulus, hsignificand, hscale, hmagnitude]
  · obtain ⟨hsignificand, hscale⟩ := fields_of_le (x := x) (by omega)
    by_cases hcarry : s = 2 * leadingBit
    · have hsteps : x.magnitude.val = ((k + 1074).toNat + 2) * leadingBit := by
        rw [h, hcarry]
        ring
      rw [hsteps, Nat.mul_mod_left] at hsignificand
      rw [hsteps, Nat.mul_div_cancel _ hpos] at hscale
      have hnext : x.scale = k + 1 := by omega
      rw [modulus, hsignificand, hnext, hcarry, zpow_add_one₀ two_ne_zero]
      push_cast
      ring
    · obtain ⟨rest, rfl⟩ : ∃ rest, s = leadingBit + rest := ⟨s - leadingBit, by omega⟩
      have hrest : rest < leadingBit := by omega
      have hsteps : x.magnitude.val = rest + ((k + 1074).toNat + 1) * leadingBit := by
        rw [h]
        ring
      rw [hsteps, Nat.add_mul_mod_self_right, Nat.mod_eq_of_lt hrest] at hsignificand
      rw [hsteps, Nat.add_mul_div_right _ _ hpos, Nat.div_eq_of_lt hrest] at hscale
      have hsame : x.scale = k := by omega
      rw [modulus, hsignificand, hsame]

theorem neg_le_scale (x : Double) : -1074 ≤ x.scale := by
  rcases x.full_significand with ⟨-, h⟩ | h <;> omega

/-- A number is a multiple of every power of two up to its scale. -/
theorem exists_modulus_eq {k : Int} (h : k ≤ y.scale) : ∃ m : Int, y.modulus = m * 2 ^ k := by
  obtain ⟨j, hj⟩ : ∃ j : Nat, y.scale = j + k := ⟨(y.scale - k).toNat, by omega⟩
  refine ⟨(y.significand * 2 ^ j : Nat), ?_⟩
  rw [modulus, hj, zpow_add₀ two_ne_zero, zpow_natCast]
  push_cast
  ring

/-- A number of a smaller scale is not above the smallest full one of a scale. -/
theorem modulus_le_of_scale_lt {k : Int} (h : y.scale < k) :
    y.modulus ≤ (leadingBit : ℚ) * 2 ^ k := by
  have hsignificand : (y.significand : ℚ) ≤ leadingBit * 2 := by
    have hlt := y.significand_lt
    exact_mod_cast (by omega : y.significand ≤ leadingBit * 2)
  calc y.modulus ≤ leadingBit * 2 * 2 ^ y.scale :=
        mul_le_mul_of_nonneg_right hsignificand (by positivity)
    _ = leadingBit * 2 ^ (y.scale + 1) := by
        rw [zpow_add_one₀ two_ne_zero]
        ring
    _ ≤ leadingBit * 2 ^ k := by
        gcongr
        · norm_num
        · omega

/-- Above the lowest scale, a quotient is not below the smallest full number of its scale. -/
theorem leadingBit_le_quotient (hnum : 0 < num) (hden : 0 < den) (h : -1074 < grain num den) :
    (leadingBit : ℚ) * 2 ^ grain num den ≤ num / den := by
  have hlog : floorLog num den = 52 + grain num den := by
    unfold grain at h ⊢
    omega
  have hbit : (leadingBit : ℚ) = 2 ^ (52 : Int) := by norm_num [leadingBit]
  rw [hbit, ← zpow_add₀ two_ne_zero, ← hlog]
  exact (le_floorLog_iff hnum hden).1 le_rfl

/-- What a quotient is rounded to at its scale is as near to it as any number is. -/
theorem significandAt_grain_nearest (hnum : 0 < num) (hden : 0 < den) (y : Double) {v : ℚ}
    (hv : |v| = y.modulus) :
    |(significandAt num den (grain num den) : ℚ) * 2 ^ grain num den - num / den| ≤
      |v - num / den| := by
  by_cases hscale : grain num den ≤ y.scale
  · -- the number is a multiple of the power to which the quotient is rounded
    obtain ⟨m, hm⟩ := exists_modulus_eq hscale
    rcases (abs_eq y.modulus_nonneg).1 hv with h | h
    · rw [h, hm]
      exact significandAt_nearest num hden _ m
    · rw [h, hm, ← neg_mul, ← Int.cast_neg]
      exact significandAt_nearest num hden _ (-m)
  · -- the smallest full number of the scale lies between the number and the quotient
    have hlow := y.neg_le_scale
    have hleading := leadingBit_le_quotient hnum hden (by omega)
    have hbelow : v ≤ leadingBit * 2 ^ grain num den := by
      have hmodulus := modulus_le_of_scale_lt (y := y) (not_le.1 hscale)
      exact (le_abs_self v).trans (hv ▸ hmodulus)
    calc _ ≤ |((leadingBit : Int) : ℚ) * 2 ^ grain num den - num / den| :=
          significandAt_nearest num hden _ _
      _ = num / den - leadingBit * 2 ^ grain num den := by
          rw [Int.cast_natCast, abs_sub_comm, abs_of_nonneg (sub_nonneg.2 hleading)]
      _ ≤ num / den - v := by linarith
      _ ≤ |v - num / den| := by
          rw [abs_sub_comm]
          exact le_abs_self _

/-! ## Integers -/

section

variable {i j : Int}

theorem ofInt_fields (h : i.natAbs < 2 ^ 64) :
    (ofInt i).negative = decide (i < 0) ∧
      (ofInt i).magnitude.val = nearestMagnitude i.natAbs 1 := by
  have hfinite := ofInt_isFinite h
  unfold ofInt ofRatio ofMagnitude at hfinite ⊢
  split
  next => exact ⟨rfl, rfl⟩
  next hnot =>
    rw [dif_neg hnot] at hfinite
    simp [isFinite] at hfinite

theorem value_ofInt (h : i.natAbs < 2 ^ 64) :
    (ofInt i).value = if i < 0 then -(ofInt i).modulus else (ofInt i).modulus := by
  simp [value, (ofInt_fields h).1]

theorem modulus_ofInt (h : i.natAbs < 2 ^ 64) (hi : i ≠ 0) : (ofInt i).modulus =
    significandAt i.natAbs 1 (grain i.natAbs 1) * 2 ^ grain i.natAbs 1 := by
  have hpos : 0 < i.natAbs := Int.natAbs_pos.2 hi
  have hmagnitude := (ofInt_fields h).2
  rw [nearestMagnitude_eq hpos] at hmagnitude
  have hlow : -1074 ≤ grain i.natAbs 1 := le_max_right _ _
  refine modulus_of_magnitude (significand_le hpos one_pos) hlow ?_ hmagnitude
  by_cases hnormal : -1022 ≤ floorLog i.natAbs 1
  · exact .inl (leadingBit_le_significand hpos one_pos hnormal)
  · exact .inr (grain_of_lt (by omega))

theorem value_ofInt_zero : (ofInt 0).value = 0 := (isZero_iff (ofInt 0)).1 rfl

/-- No number is nearer to an integer than the one to which the integer is rounded. -/
theorem ofInt_nearest (h : i.natAbs < 2 ^ 64) (y : Double) :
    |(ofInt i).value - i| ≤ |y.value - i| := by
  by_cases hi : i = 0
  · rw [hi, value_ofInt_zero]
    simp
  · have hnear (v : ℚ) (hv : |v| = y.modulus) :
        |(ofInt i).modulus - i.natAbs| ≤ |v - i.natAbs| := by
      have hall := significandAt_grain_nearest (Int.natAbs_pos.2 hi) one_pos y hv
      rwa [← modulus_ofInt h hi, Nat.cast_one, div_one] at hall
    rw [value_ofInt h]
    by_cases hneg : i < 0
    · have hcast : (i : ℚ) = -(i.natAbs : ℚ) := by
        rw [Nat.cast_natAbs, abs_of_neg hneg, Int.cast_neg, neg_neg]
      have hopposite := hnear (-y.value) (by rw [abs_neg, abs_value])
      rw [if_pos hneg, hcast, ← abs_neg, ← abs_neg (y.value - _)]
      simpa [neg_sub, sub_eq_add_neg, add_comm] using hopposite
    · have hcast : (i : ℚ) = i.natAbs := by
        rw [Nat.cast_natAbs, abs_of_nonneg (not_lt.1 hneg)]
      rw [if_neg hneg, hcast]
      exact hnear y.value y.abs_value

/-- An integer that is a number is rounded to itself. -/
theorem value_ofInt_of_value (h : i.natAbs < 2 ^ 64) (hy : y.value = i) : (ofInt i).value = i := by
  have hnear := ofInt_nearest h y
  rw [hy, sub_self, abs_zero, abs_nonpos_iff, sub_eq_zero] at hnear
  exact hnear

/-- Up to 2^53 an integer is a multiple of the power of two to which it is rounded. -/
theorem exists_multiple {n : Nat} (hn : 0 < n) (h : n ≤ 2 ^ 53) :
    ∃ m : Int, (m : ℚ) * 2 ^ grain n 1 = n := by
  by_cases hmax : n = 2 ^ 53
  · have hgrain : grain n 1 = 1 := by
      rw [hmax]
      decide
    refine ⟨2 ^ 52, ?_⟩
    rw [hgrain, hmax]
    norm_num
  · have hlog : ¬53 ≤ floorLog n 1 := by
      rw [le_floorLog_iff hn one_pos, Nat.cast_one, div_one, not_le]
      have hlt : n < 2 ^ 53 := by omega
      exact_mod_cast hlt
    obtain ⟨k, hk⟩ : ∃ k : Nat, grain n 1 = -(k : Int) :=
      ⟨(-grain n 1).toNat, by unfold grain; omega⟩
    refine ⟨n * 2 ^ k, ?_⟩
    rw [hk, zpow_neg, zpow_natCast]
    push_cast
    field_simp

theorem value_ofInt_of_modulus (h : i.natAbs < 2 ^ 64) (hi : (ofInt i).modulus = i.natAbs) :
    (ofInt i).value = i := by
  rw [value_ofInt h, hi, Nat.cast_natAbs]
  split
  next hneg => rw [abs_of_neg hneg, Int.cast_neg, neg_neg]
  next hpos => rw [abs_of_nonneg (not_lt.1 hpos)]

/-- Integers up to 2^53 are numbers. -/
theorem value_ofInt_small (h : i.natAbs ≤ 2 ^ 53) : (ofInt i).value = i := by
  have hsmall : i.natAbs < 2 ^ 64 := by omega
  by_cases hi : i = 0
  · rw [hi, value_ofInt_zero, Int.cast_zero]
  · obtain ⟨m, hm⟩ := exists_multiple (Int.natAbs_pos.2 hi) h
    have hnear := significandAt_nearest i.natAbs one_pos (grain i.natAbs 1) m
    rw [Nat.cast_one, div_one, hm, sub_self, abs_zero, abs_nonpos_iff, sub_eq_zero] at hnear
    exact value_ofInt_of_modulus hsmall ((modulus_ofInt hsmall hi).trans hnear)

/-- An integer below 2^53 shares its number with no other one. -/
theorem eq_of_value_ofInt (h : i.natAbs < 2 ^ 53) (hj : j.natAbs < 2 ^ 64)
    (heq : (ofInt i).value = (ofInt j).value) : i = j := by
  rw [value_ofInt_small h.le] at heq
  by_cases hsmall : j.natAbs ≤ 2 ^ 53
  · rw [value_ofInt_small hsmall] at heq
    exact_mod_cast heq
  · -- the bound itself is a number, and it is nearer to the larger one than the smaller one is
    obtain ⟨b, hb, hside⟩ : ∃ b : Int, b.natAbs ≤ 2 ^ 53 ∧ (b - j).natAbs < (i - j).natAbs := by
      by_cases hneg : j < 0
      · exact ⟨-2 ^ 53, by omega, by omega⟩
      · exact ⟨2 ^ 53, by omega, by omega⟩
    have hnear := ofInt_nearest hj (ofInt b)
    rw [← heq, value_ofInt_small hb] at hnear
    have hint : |i - j| ≤ |b - j| := by exact_mod_cast hnear
    rw [Int.abs_eq_natAbs, Int.abs_eq_natAbs] at hint
    omega

end

end FeatureFlags.Double
