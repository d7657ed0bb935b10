import FeatureFlags.Proofs.Double.Rounding

/-!
# Decimals that read back

Reading a decimal rounds its value, and nothing else of it matters (`ofDecimal_congr`): exponents
that are answered without computing the power are answered as the power would be. So a finite
number is read back from the decimal that equals it, and from the shortest one
(`ofDecimal_shortest`).
-/
namespace FeatureFlags.Double

/-! ## The value of a decimal -/

def Decimal.value (d : Decimal) : ℚ := d.digits * 10 ^ d.exponent

theorem Decimal.quotient (d : Decimal) :
    ((d.digits * 10 ^ d.exponent.toNat : Nat) : ℚ) / ((10 ^ (-d.exponent).toNat : Nat) : ℚ) =
      d.value := by
  have h := quotient_toNat (b := 10) (by decide) d.digits 1 d.exponent
  rw [Nat.one_mul, Nat.cast_one, div_one] at h
  exact h

/-- A decimal rounded to a number, whatever its exponent is. -/
def rounded (negative : Bool) (d : Decimal) : Double :=
  ofRatio negative (d.digits * 10 ^ d.exponent.toNat) (10 ^ (-d.exponent).toNat)

theorem ofRatio_congr (negative : Bool) {num den num' den' : Nat} (hden : 0 < den)
    (hden' : 0 < den') (h : (num : ℚ) / den = num' / den') :
    ofRatio negative num den = ofRatio negative num' den' := by
  rw [ofRatio, ofRatio, nearestMagnitude_congr hden hden' h]

theorem rounded_congr (negative : Bool) {d d' : Decimal} (h : d.value = d'.value) :
    rounded negative d = rounded negative d' :=
  ofRatio_congr negative (Nat.pow_pos (by decide)) (Nat.pow_pos (by decide))
    (by rw [d.quotient, d'.quotient, h])

theorem rounded_of_digits_eq_zero (negative : Bool) {d : Decimal} (h : d.digits = 0) :
    rounded negative d = zero negative := by
  rw [rounded, h, Nat.zero_mul, ofRatio, nearestMagnitude_zero]
  rfl

theorem ofMagnitude_of_infinite_le (negative : Bool) {m : Nat} (h : infiniteMagnitude ≤ m) :
    ofMagnitude negative m = infinity negative :=
  dif_neg (Nat.not_lt.2 h)

theorem two_zpow_le_ten_zpow {k n : Int} (hn : 0 ≤ n) (h : k ≤ 3 * n) : (2 : ℚ) ^ k ≤ 10 ^ n :=
  calc (2 : ℚ) ^ k ≤ 2 ^ (3 * n) := zpow_le_zpow_right₀ (by norm_num) h
    _ = 8 ^ n := by rw [zpow_mul]; norm_num
    _ ≤ 10 ^ n := zpow_le_zpow_left₀ hn (by norm_num) (by norm_num)

/-- A decimal with an exponent of more than 400 exceeds every finite number. -/
theorem rounded_of_large (negative : Bool) {d : Decimal} (hd : d.digits ≠ 0)
    (h : 400 < d.exponent) : rounded negative d = infinity negative := by
  have hpositive : 0 < d.digits * 10 ^ d.exponent.toNat :=
    Nat.mul_pos (Nat.pos_of_ne_zero hd) (Nat.pow_pos (by decide))
  refine ofMagnitude_of_infinite_le negative ?_
  refine infinite_le_nearestMagnitude hpositive (Nat.pow_pos (by decide)) ?_
  rw [d.quotient]
  have hdigits : (1 : ℚ) ≤ d.digits := mod_cast Nat.one_le_iff_ne_zero.2 hd
  calc (2 : ℚ) ^ (1024 : Int) ≤ 10 ^ (400 : Int) :=
        two_zpow_le_ten_zpow (by decide) (by decide)
    _ ≤ 10 ^ d.exponent := zpow_le_zpow_right₀ (by norm_num) h.le
    _ ≤ d.value := le_mul_of_one_le_left (by positivity) hdigits

/-- A decimal that is small for its number of digits is nearest to zero. -/
theorem rounded_of_small (negative : Bool) {d : Decimal}
    (h : d.exponent < -(400 + (d.digits.log2 : Int))) : rounded negative d = zero negative := by
  have hvalue : d.value < 2 ^ (-1075 : Int) := by
    have hdigits : (d.digits : ℚ) < 2 ^ (d.digits.log2 + 1) :=
      mod_cast Nat.lt_log2_self (n := d.digits)
    calc d.value < 2 ^ (d.digits.log2 + 1) * 10 ^ d.exponent :=
          mul_lt_mul_of_pos_right hdigits (by positivity)
      _ ≤ 10 ^ (d.digits.log2 + 1) * 10 ^ (-(400 + (d.digits.log2 : Int)) - 1) := by
          gcongr
          · norm_num
          · norm_num
          · omega
      _ = 10 ^ (-400 : Int) := by
          rw [← zpow_natCast, ← zpow_add₀ (by norm_num)]
          congr 1
          push_cast
          ring
      _ ≤ 2 ^ (-1076 : Int) := by
          rw [zpow_neg, zpow_neg]
          exact inv_anti₀ (by positivity) (two_zpow_le_ten_zpow (by decide) (by decide))
      _ < 2 ^ (-1075 : Int) := zpow_lt_zpow_right₀ (by norm_num) (by decide)
  rw [rounded, ofRatio, nearestMagnitude_eq_zero (Nat.pow_pos (by decide)) (d.quotient ▸ hvalue)]
  rfl

/-- The exponents that are answered at once are answered as all others. -/
theorem ofDecimal_eq_rounded (negative : Bool) (d : Decimal) :
    ofDecimal negative d = rounded negative d := by
  unfold ofDecimal
  split
  next hd => exact (rounded_of_digits_eq_zero negative hd).symm
  next hd =>
    split
    next hlarge => exact (rounded_of_large negative hd hlarge).symm
    next =>
      split
      next hsmall => exact (rounded_of_small negative hsmall).symm
      next => rfl

/-- Of a decimal only its value matters. -/
theorem ofDecimal_congr (negative : Bool) {d d' : Decimal} (h : d.value = d'.value) :
    ofDecimal negative d = ofDecimal negative d' := by
  rw [ofDecimal_eq_rounded, ofDecimal_eq_rounded, rounded_congr negative h]

/-! ## The decimal that equals a number -/

theorem exact_value (x : Double) : x.exact.value = x.significand * 2 ^ x.scale := by
  rw [exact]
  split
  next h =>
    obtain ⟨k, hk⟩ := Int.eq_ofNat_of_zero_le h
    rw [Decimal.value, hk]
    simp
  next h =>
    -- two to a negative scale is five to the opposite one, over ten
    obtain ⟨k, hk⟩ : ∃ k : Nat, x.scale = -(k : Int) := ⟨(-x.scale).toNat, by omega⟩
    have hten : (10 : ℚ) ^ k = 5 ^ k * 2 ^ k := by rw [← mul_pow]; norm_num
    rw [Decimal.value, hk, zpow_neg, zpow_neg, zpow_natCast, zpow_natCast, hten]
    simp
    field_simp

theorem ofMagnitude_magnitude {x : Double} (h : x.isFinite = true) :
    ofMagnitude x.negative x.magnitude.val = x := by
  have hlt : x.magnitude.val < infiniteMagnitude := of_decide_eq_true h
  rw [ofMagnitude, dif_pos hlt]

theorem fields_of_lt {x : Double} (h : x.magnitude.val < leadingBit) :
    x.significand = x.magnitude.val ∧ x.scale = -1074 := by
  rw [significand, scale, if_pos h, if_pos h]
  exact ⟨Nat.mod_eq_of_lt h, rfl⟩

theorem fields_of_le {x : Double} (h : leadingBit ≤ x.magnitude.val) :
    x.significand = leadingBit + x.magnitude.val % leadingBit ∧
      x.scale = (x.magnitude.val / leadingBit : Nat) - 1075 := by
  rw [significand, scale, if_neg (Nat.not_lt.2 h), if_neg (Nat.not_lt.2 h)]
  exact ⟨rfl, rfl⟩

theorem magnitude_eq (x : Double) :
    (x.scale + 1074).toNat * leadingBit + x.significand = x.magnitude.val := by
  rcases Nat.lt_or_ge x.magnitude.val leadingBit with h | h
  · obtain ⟨hsignificand, hscale⟩ := fields_of_lt h
    rw [hsignificand, hscale]
    simp
  · obtain ⟨hsignificand, hscale⟩ := fields_of_le h
    have hone : 1 ≤ x.magnitude.val / leadingBit := (Nat.one_le_div_iff (by decide)).2 h
    have hsteps : (x.scale + 1074).toNat = x.magnitude.val / leadingBit - 1 := by omega
    have hdivmod := Nat.div_add_mod' x.magnitude.val leadingBit
    rw [hsteps, hsignificand, Nat.sub_mul, Nat.one_mul]
    have hmul := Nat.mul_le_mul_right leadingBit hone
    omega

theorem significand_lt (x : Double) : x.significand < 2 * leadingBit := by
  rcases Nat.lt_or_ge x.magnitude.val leadingBit with h | h
  · rw [(fields_of_lt h).1]
    omega
  · have hmod := Nat.mod_lt x.magnitude.val (show 0 < leadingBit by decide)
    rw [(fields_of_le h).1]
    omega

/-- The leading digit is there, unless the scale is the smallest. -/
theorem full_significand (x : Double) :
    leadingBit ≤ x.significand ∧ -1074 ≤ x.scale ∨ x.scale = -1074 := by
  rcases Nat.lt_or_ge x.magnitude.val leadingBit with h | h
  · exact .inr (fields_of_lt h).2
  · obtain ⟨hsignificand, hscale⟩ := fields_of_le h
    have hone : 1 ≤ x.magnitude.val / leadingBit := (Nat.one_le_div_iff (by decide)).2 h
    refine .inl ⟨?_, ?_⟩ <;> omega

theorem nearestMagnitude_of_value {x : Double} {num den : Nat} (hden : 0 < den)
    (h : (num : ℚ) / den = x.significand * 2 ^ x.scale) :
    nearestMagnitude num den = x.magnitude.val := by
  have hmagnitude := x.magnitude_eq
  rcases Nat.eq_zero_or_pos x.significand with hzero | hpos
  · have hscale : x.scale = -1074 := by
      refine x.full_significand.resolve_left fun hfull => ?_
      rw [hzero] at hfull
      exact absurd hfull.1 (by decide)
    have hnum : (num : ℚ) = 0 := by
      rw [hzero, Nat.cast_zero, zero_mul, div_eq_zero_iff] at h
      exact h.resolve_right (Nat.cast_ne_zero.2 hden.ne')
    rw [hzero, hscale] at hmagnitude
    rw [Nat.cast_eq_zero.1 hnum, nearestMagnitude_zero, ← hmagnitude]
    rfl
  · rw [← hmagnitude]
    have hscale : -1074 ≤ x.scale := by
      rcases x.full_significand with ⟨-, h⟩ | h <;> omega
    exact nearestMagnitude_of_exact hden hpos x.significand_lt hscale
      (x.full_significand.imp_left And.left) h

theorem ofDecimal_exact {x : Double} (h : x.isFinite = true) :
    ofDecimal x.negative x.exact = x := by
  rw [ofDecimal_eq_rounded, rounded, ofRatio, nearestMagnitude_of_value (Nat.pow_pos (by decide))
    (x.exact.quotient.trans x.exact_value), ofMagnitude_magnitude h]

/-! ## Shortest decimals -/

theorem value_strip (d : Decimal) (fuel : Nat) : (d.strip fuel).value = d.value := by
  induction fuel generalizing d with
  | zero => rfl
  | succ fuel ih =>
    unfold Decimal.strip
    split
    next h =>
      have hten : d.digits / 10 * 10 = d.digits := Nat.div_mul_cancel (Nat.dvd_of_mod_eq_zero h.2)
      have hdigits : (d.digits : ℚ) = ((d.digits / 10 : Nat) : ℚ) * 10 := mod_cast hten.symm
      rw [ih, Decimal.value, Decimal.value, hdigits, zpow_add₀ (by norm_num)]
      ring
    next => rfl

/-- A neighbour on a grid is chosen only if it reads back. -/
theorem ofDecimal_of_onGrid {x : Double} {n : Nat} {d : Decimal} (h : x.onGrid n = some d) :
    ofDecimal x.negative d = x := by
  have hread : readsBack x d = true := by
    rw [onGrid] at h
    split at h
    next hbelow habove =>
      cases h
      split
      · exact hbelow
      · exact habove
    next hbelow _ =>
      cases h
      exact hbelow
    next _ habove =>
      cases h
      exact habove
    next => cases h
  exact eq_of_beq hread

/-- The shortest decimal of a finite number reads back. -/
theorem ofDecimal_shortest {x : Double} (h : x.isFinite = true) :
    ofDecimal x.negative x.shortest = x := by
  rw [shortest, ofDecimal_congr _ (value_strip _ _)]
  rcases hfound : (List.range (Nat.toDigits 10 x.exact.digits).length).reverse.findSome? x.onGrid
    with _ | d
  · exact ofDecimal_exact h
  · obtain ⟨n, -, hgrid⟩ := List.exists_of_findSome?_eq_some hfound
    exact ofDecimal_of_onGrid hgrid

end FeatureFlags.Double
