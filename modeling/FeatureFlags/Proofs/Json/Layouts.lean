import FeatureFlags.Json.Printer
import FeatureFlags.Proofs.Double.Shortest
import FeatureFlags.Proofs.Json.Numerals

/-!
# Numbers as they are written

Every number that is written is read back as the same number in the same form
(`readNumeral?_chars`). An integer is spelled by its digits. A float is spelled by a layout of its
shortest decimal, which may stand for that decimal with other digits: only the value has to be the
same, since nothing else matters for the rounding.
-/
namespace FeatureFlags.Document

open Text (Symbol)

/-! ## Values of spellings -/

namespace Spelling

/-- The value of a spelling, without its sign. -/
def decimal (s : Spelling) : Double.Decimal :=
  ⟨ofDigits (digitValues s.whole ++ digitValues s.fraction),
    s.exponent.getD 0 - (digitValues s.fraction).length⟩

def ofNat (n : Nat) : Spelling where
  whole := Nat.toDigits 10 n
  fraction := []
  exponent := none
  whole_digits := digits_toDigits n
  whole_ne_nil := Nat.toDigits_ne_nil
  lead _ h := (toDigits_lead n h).2
  fraction_digits _ h := nomatch h

theorem chars_ofNat (n : Nat) : (ofNat n).chars = Nat.toDigits 10 n := List.append_nil _

/-- Neither a fraction nor an exponent is written. -/
def Integral (s : Spelling) : Prop := s.fraction = [] ∧ s.exponent = none

theorem value?_of_not_integral {s : Spelling} (h : ¬s.Integral) (negative : Bool) :
    (s.numeral negative).value? = Json.Number.ofDouble? (Double.ofDecimal negative s.decimal) := by
  have hwritten : (s.numeral negative).integral = false := by
    rw [← Bool.not_eq_true]
    intro hint
    rw [numeral, Bool.and_eq_true, List.isEmpty_iff, Option.isNone_iff_eq_none] at hint
    exact h ⟨List.map_eq_nil_iff.1 hint.1, hint.2⟩
  simp only [Numeral.value?, hwritten]
  rfl

theorem value?_ofNat {n : Nat} {negative : Bool} {number : Json.Number}
    (hzero : ¬(negative = true ∧ n = 0))
    (hfits : Json.Number.ofInt? (if negative then -n else n) = some number) :
    ((ofNat n).numeral negative).value? = some number := by
  have hmagnitude : ofDigits ((ofNat n).numeral negative).whole = n := ofDigits_toDigits n
  have hint : ((ofNat n).numeral negative).integral = true := rfl
  have hsign : ((ofNat n).numeral negative).negative = negative := rfl
  simp only [Numeral.value?, hmagnitude, hint, hsign]
  rw [if_pos ⟨trivial, hzero⟩, hfits]

end Spelling

/-! ## Layouts -/

theorem Spelling.decimal_eq (s : Spelling) : s.decimal =
    ⟨Nat.ofDigitChars 10 (s.whole ++ s.fraction) 0, s.exponent.getD 0 - s.fraction.length⟩ := by
  rw [decimal, ← ofDigits_digitValues]
  simp [digitValues]

theorem digits_lead {n : Nat} (hn : n ≠ 0) {rest : List Char} : Nat.toDigits 10 n ≠ '0' :: rest :=
  fun h => hn (toDigits_lead n h).1

section

variable {d : Double.Decimal}

/-- The zeros of a small number behind its point. -/
def Spelling.small (d : Double.Decimal) (zeros : Nat) : Spelling where
  whole := ['0']
  fraction := List.replicate zeros '0' ++ Nat.toDigits 10 d.digits
  exponent := none
  whole_digits c hc := by rw [List.mem_singleton.1 hc]; rfl
  whole_ne_nil := List.cons_ne_nil _ _
  lead _ h := (List.cons.inj h).2.symm
  fraction_digits := (digits_zeros zeros).append (digits_toDigits d.digits)

/-- The zeros of a large number before its point. -/
def Spelling.large (hd : d.digits ≠ 0) (zeros : Nat) : Spelling where
  whole := Nat.toDigits 10 d.digits ++ List.replicate zeros '0'
  fraction := ['0']
  exponent := none
  whole_digits := (digits_toDigits d.digits).append (digits_zeros zeros)
  whole_ne_nil h := Nat.toDigits_ne_nil (List.append_eq_nil_iff.1 h).1
  lead rest h := by
    obtain ⟨c, tail, htail⟩ := List.exists_cons_of_ne_nil (Nat.toDigits_ne_nil (n := d.digits)
      (b := 10))
    rw [htail, List.cons_append] at h
    rw [(List.cons.inj h).1] at htail
    exact absurd htail (digits_lead hd)
  fraction_digits c hc := by rw [List.mem_singleton.1 hc]; rfl

/-- The point behind the first `n + 1` digits, if there are more. -/
def Spelling.split (hd : d.digits ≠ 0) (n : Nat) (exponent : Option Int) : Spelling where
  whole := (Nat.toDigits 10 d.digits).take (n + 1)
  fraction := (Nat.toDigits 10 d.digits).drop (n + 1)
  exponent := exponent
  whole_digits c hc := digits_toDigits d.digits c (List.mem_of_mem_take hc)
  whole_ne_nil h := (List.take_eq_nil_iff.1 h).elim (Nat.succ_ne_zero n) Nat.toDigits_ne_nil
  lead rest h := by
    have hall := List.take_append_drop (n + 1) (Nat.toDigits 10 d.digits)
    rw [h, List.cons_append] at hall
    exact absurd hall.symm (digits_lead hd)
  fraction_digits c hc := digits_toDigits d.digits c (List.mem_of_mem_drop hc)

theorem Spelling.decimal_small (d : Double.Decimal) {zeros : Nat}
    (h : d.exponent + (Nat.toDigits 10 d.digits).length = -zeros) :
    (Spelling.small d zeros).decimal = d := by
  have hdigits : Nat.ofDigitChars 10 (['0'] ++ (List.replicate zeros '0' ++
      Nat.toDigits 10 d.digits)) 0 = d.digits := by
    rw [Nat.ofDigitChars_append, Nat.ofDigitChars_append, Nat.ofDigitChars_replicate_zero]
    exact Nat.ofDigitChars_ten_toDigits
  have hexponent : (0 : Int) - (List.replicate zeros '0' ++ Nat.toDigits 10 d.digits).length =
      d.exponent := by
    rw [List.length_append, List.length_replicate]
    omega
  rw [decimal_eq]
  exact congr (congrArg Double.Decimal.mk hdigits) hexponent

theorem Spelling.decimal_split (hd : d.digits ≠ 0) {n : Nat} {exponent : Option Int}
    (h : exponent.getD 0 - ((Nat.toDigits 10 d.digits).length - (n + 1) : Nat) = d.exponent) :
    (Spelling.split hd n exponent).decimal = d := by
  have hdigits : Nat.ofDigitChars 10 ((Nat.toDigits 10 d.digits).take (n + 1) ++
      (Nat.toDigits 10 d.digits).drop (n + 1)) 0 = d.digits := by
    rw [List.take_append_drop, Nat.ofDigitChars_ten_toDigits]
  rw [← List.length_drop] at h
  rw [decimal_eq]
  exact congr (congrArg Double.Decimal.mk hdigits) h

theorem Spelling.value_large (hd : d.digits ≠ 0) {zeros : Nat} (h : d.exponent = zeros) :
    (Spelling.large hd zeros).decimal.value = d.value := by
  have hdigits : Nat.ofDigitChars 10 (Nat.toDigits 10 d.digits ++ List.replicate zeros '0' ++
      ['0']) 0 = d.digits * 10 ^ zeros * 10 := by
    rw [Nat.ofDigitChars_append, Nat.ofDigitChars_append, Nat.ofDigitChars_ten_toDigits,
      Nat.ofDigitChars_replicate_zero]
    change 10 * (10 ^ zeros * d.digits) + 0 = _
    ring
  have hdecimal : (Spelling.large hd zeros).decimal = ⟨d.digits * 10 ^ zeros * 10, -1⟩ := by
    rw [decimal_eq]
    exact congr (congrArg Double.Decimal.mk hdigits) rfl
  rw [hdecimal, Double.Decimal.value, Double.Decimal.value, h, zpow_natCast]
  push_cast
  rw [zpow_neg_one, mul_assoc, mul_inv_cancel₀ (by norm_num), mul_one]

/-- A spelling of a value, with a fraction or an exponent. -/
def Spelling.Spells (s : Spelling) (d : Double.Decimal) : Prop :=
  ¬s.Integral ∧ s.decimal.value = d.value

theorem spells_positional (hd : d.digits ≠ 0) {point : Int}
    (hpoint : point = d.exponent + (Nat.toDigits 10 d.digits).length) :
    ∃ s : Spelling, s.chars = Double.layout.positional (Nat.toDigits 10 d.digits) point ∧
      s.Spells d := by
  have hne : Nat.toDigits 10 d.digits ≠ [] := Nat.toDigits_ne_nil
  rcases Int.lt_or_le 0 point with hpositive | hsmall
  · have hafter : ¬point ≤ 0 := Int.not_le.2 hpositive
    rcases Nat.lt_or_ge point.toNat (Nat.toDigits 10 d.digits).length with hinside | hlarge
    · have hpast : point.toNat - 1 + 1 = point.toNat := by omega
      have hmore : ¬(Nat.toDigits 10 d.digits).length ≤ point.toNat := Nat.not_le.2 hinside
      have hfraction : (Nat.toDigits 10 d.digits).drop point.toNat ≠ [] := by
        rw [Ne, List.drop_eq_nil_iff]
        exact hmore
      refine ⟨Spelling.split hd (point.toNat - 1) none, ?_, fun h => hfraction (hpast ▸ h.1), ?_⟩
      · simp [Spelling.chars, Spelling.fractionChars, Spelling.exponentChars, Spelling.split,
          Double.Layout.positional, hafter, hpast, hmore]
      · rw [Spelling.decimal_split hd]
        rw [Option.getD_none]
        omega
    · refine ⟨Spelling.large hd (point.toNat - (Nat.toDigits 10 d.digits).length), ?_,
        fun h => absurd h.1 (List.cons_ne_nil _ _), Spelling.value_large hd (by omega)⟩
      simp [Spelling.chars, Spelling.fractionChars, Spelling.exponentChars, Spelling.large,
        Double.Layout.positional, Double.layout, hafter, hlarge]
  · have hfraction : List.replicate (-point).toNat '0' ++ Nat.toDigits 10 d.digits ≠ [] :=
      fun h => hne (List.append_eq_nil_iff.1 h).2
    refine ⟨Spelling.small d (-point).toNat, ?_, fun h => hfraction h.1, ?_⟩
    · simp [Spelling.chars, Spelling.fractionChars, Spelling.exponentChars, Spelling.small,
        Double.Layout.positional, hsmall, hne]
    · rw [Spelling.decimal_small d (by omega)]

theorem spells_scientific (hd : d.digits ≠ 0) {exponent : Int}
    (hexponent : exponent = d.exponent + (Nat.toDigits 10 d.digits).length - 1) :
    ∃ s : Spelling, s.chars = Double.layout.scientific (Nat.toDigits 10 d.digits) exponent ∧
      s.Spells d := by
  have hlength : 0 < (Nat.toDigits 10 d.digits).length :=
    List.length_pos_iff.2 Nat.toDigits_ne_nil
  refine ⟨Spelling.split hd 0 (some exponent), ?_, fun h => absurd h.2 (Option.some_ne_none _), ?_⟩
  · rcases hdigits : Nat.toDigits 10 d.digits with _ | ⟨c, _ | ⟨e, more⟩⟩
    · exact absurd hdigits Nat.toDigits_ne_nil
    all_goals
      simp [Spelling.chars, Spelling.fractionChars, Spelling.exponentChars, Spelling.split,
        Double.Layout.scientific, Double.layout, Double.digitChars, hdigits]
      split <;> rfl
  · rw [Spelling.decimal_split hd]
    rw [Option.getD_some]
    omega

/-- The layout of a decimal spells its value. -/
theorem spells_layout (hd : d.digits ≠ 0) :
    ∃ s : Spelling, s.chars = Double.layout.decimal d ∧ s.Spells d := by
  obtain ⟨exponent, hexponent⟩ :
      ∃ e : Int, e = d.exponent + (Nat.toDigits 10 d.digits).length - 1 := ⟨_, rfl⟩
  simp only [Double.Layout.decimal, Double.digitChars, ← hexponent]
  by_cases hrange : Double.layout.low ≤ exponent ∧ exponent < Double.layout.high
  · simp only [if_pos hrange]
    exact spells_positional hd (by omega)
  · simp only [if_neg hrange]
    exact spells_scientific hd hexponent

end

/-! ## Numbers -/

theorem ofInt?_toInt (i : Int64) : Json.Number.ofInt? i.toInt = some (.int i) := by
  have hlow := i.le_toInt
  have hhigh := i.toInt_lt
  rw [Json.Number.ofInt?, if_pos (by omega), Int64.ofInt_toInt]

theorem ofInt?_toNat {n : UInt64} (above : 0x8000000000000000 ≤ n.toNat) :
    Json.Number.ofInt? n.toNat = some (.large n above) := by
  have hhigh := n.toNat_lt
  rw [Json.Number.ofInt?, if_neg (by omega), dif_pos (by omega)]
  simp

theorem spells_double {x : Double} (h : x.isFinite = true) :
    ∃ s : Spelling, x.chars = signChars x.negative ++ s.chars ∧ ¬s.Integral ∧
      Double.ofDecimal x.negative s.decimal = x := by
  have hnumber : x.isNaN = false := by
    rw [Double.isFinite, decide_eq_true_eq] at h
    exact decide_eq_false (Nat.lt_asymm h)
  have hchars : x.chars = if x.isZero then signChars x.negative ++ ['0', '.', '0']
      else signChars x.negative ++ Double.layout.decimal x.shortest := by
    simp only [Double.chars, hnumber, h, if_true, Bool.false_eq_true, if_false]
    rfl
  rcases hzero : x.isZero with _ | _
  · have hread := Double.ofDecimal_shortest h
    have hdigits : x.shortest.digits ≠ 0 := by
      intro hnone
      rw [Double.ofDecimal, if_pos hnone] at hread
      rw [← hread] at hzero
      cases hzero
    obtain ⟨s, hs, hwritten, hvalue⟩ := spells_layout hdigits
    refine ⟨s, ?_, hwritten, ?_⟩
    · rw [hchars, hzero, hs]
      rfl
    · rw [Double.ofDecimal_congr x.negative hvalue, hread]
  · have hdecimal : (Spelling.small ⟨0, -1⟩ 0).decimal = ⟨0, -1⟩ :=
      Spelling.decimal_small ⟨0, -1⟩ rfl
    refine ⟨Spelling.small ⟨0, -1⟩ 0, ?_, fun h => absurd h.1 (by decide), ?_⟩
    · rw [hchars, hzero]
      rfl
    · rw [hdecimal, ← Double.ofMagnitude_magnitude h, eq_of_beq hzero]
      rfl

theorem spells_number (n : Json.Number) :
    ∃ (negative : Bool) (s : Spelling), n.chars = signChars negative ++ s.chars ∧
      (s.numeral negative).value? = some n := by
  cases n with
  | int i =>
    refine ⟨decide (i.toInt < 0), Spelling.ofNat i.toInt.natAbs, ?_, Spelling.value?_ofNat ?_ ?_⟩
    · rw [Json.Number.chars, Json.intChars, Spelling.chars_ofNat, signChars]
      by_cases hneg : i.toInt < 0 <;> simp [hneg]
    · rintro ⟨hneg, hzero⟩
      rw [decide_eq_true_eq] at hneg
      omega
    · rw [← ofInt?_toInt i]
      congr 1
      by_cases hneg : i.toInt < 0
      · simp only [hneg, decide_true, if_true]
        omega
      · simp only [hneg, decide_false, Bool.false_eq_true, if_false]
        omega
  | large n above =>
    refine ⟨false, Spelling.ofNat n.toNat, (Spelling.chars_ofNat n.toNat).symm,
      Spelling.value?_ofNat (fun h => Bool.false_ne_true h.1) (ofInt?_toNat above)⟩
  | float x finite =>
    obtain ⟨s, hchars, hwritten, hvalue⟩ := spells_double finite
    refine ⟨x.negative, s, hchars, ?_⟩
    rw [Spelling.value?_of_not_integral hwritten, hvalue]
    exact dif_pos finite

/-- A number that is written is read as the same number. -/
theorem readNumeral?_chars (n : Json.Number) {rest : List Symbol} (hend : NumberEnds rest) :
    ∃ numeral, readNumeral? (n.chars.map some ++ rest) = some (numeral, rest) ∧
      numeral.value? = some n := by
  obtain ⟨negative, s, hchars, hvalue⟩ := spells_number n
  exact ⟨s.numeral negative, hchars ▸ readNumeral?_append s negative hend, hvalue⟩

end FeatureFlags.Document
