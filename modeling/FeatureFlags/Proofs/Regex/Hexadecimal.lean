import FeatureFlags.Hook.Validator
import FeatureFlags.Proofs.Regex.Search

/-!
# The validator of hexadecimal texts

Between an anchor for the start of the text and one for its end, an expression has to match all of
the text (`occursIn_anchored`). So the validator of hexadecimal texts accepts the strings of one
digit or more and no other value (`hex_accepts_iff`).
-/
namespace FeatureFlags

namespace Regex

/-- A set several times is as many of its characters. -/
theorem repeated_set_iff {set : CharSet} {n : Nat} {x y : Spot} :
    Repeated (Matches (.set set)) n x y ↔
      ∃ s, s.length = n ∧ (∀ c ∈ s, set.contains c = true) ∧ Spot.Over s x y := by
  induction n generalizing x with
  | zero =>
    rw [Repeated, ← Spot.over_nil]
    constructor
    · intro h
      exact ⟨[], rfl, by simp, h⟩
    · rintro ⟨s, hlength, -, h⟩
      exact List.length_eq_zero_iff.1 hlength ▸ h
  | succ n ih =>
    rw [Repeated]
    constructor
    · rintro ⟨z, ⟨c, hc, hfirst⟩, hrest⟩
      obtain ⟨s, hlength, hs, hover⟩ := ih.1 hrest
      exact ⟨[c] ++ s, by simp [hlength], by simpa [hc] using hs,
        Spot.over_append.2 ⟨z, hfirst, hover⟩⟩
    · rintro ⟨s, hlength, hs, hover⟩
      obtain ⟨c, s, rfl⟩ := List.exists_cons_of_length_eq_add_one hlength
      rw [← List.singleton_append, Spot.over_append] at hover
      obtain ⟨z, hfirst, hrest⟩ := hover
      rw [List.forall_mem_cons] at hs
      exact ⟨z, ⟨c, hs.1, hfirst⟩, ih.2 ⟨s, Nat.succ.inj hlength, hs.2, hrest⟩⟩

/-- No other spots than those at the two ends of a text meet the two conditions. -/
theorem occursIn_anchored (r : Regex) (s : String) :
    (seq (look .textStart) (seq r (look .textEnd))).occursIn s = true ↔
      r.Matches ⟨[], s.toList⟩ ⟨s.toList, []⟩ := by
  rw [occursIn_iff]
  constructor
  · rintro ⟨x, _, htext, _, ⟨rfl, hstart⟩, y, hr, ⟨rfl, hend⟩⟩
    obtain ⟨t, hafter, hbefore⟩ := hr.over
    obtain ⟨before, after⟩ := x
    obtain ⟨before', after'⟩ := y
    obtain rfl : before = [] := List.getLast?_eq_none_iff.1 (Option.isNone_iff_eq_none.1 hstart)
    obtain rfl : after' = [] := List.head?_eq_none_iff.1 (Option.isNone_iff_eq_none.1 hend)
    obtain rfl : after = s.toList := htext
    rw [List.append_nil] at hafter
    rw [List.nil_append, ← hafter] at hbefore
    obtain rfl : before' = s.toList := hbefore
    exact hr
  · intro h
    exact ⟨_, _, by simp, _, ⟨rfl, rfl⟩, _, h, ⟨rfl, rfl⟩⟩

end Regex

namespace Validator

/-- Digits and the letters from A to F in both cases. -/
theorem contains_hexDigits (c : Char) :
    (CharSet.ofRanges [(0x30, 0x39), (0x41, 0x46), (0x61, 0x66)]).contains c = true ↔
      '0' ≤ c ∧ c ≤ '9' ∨ 'a' ≤ c ∧ c ≤ 'f' ∨ 'A' ≤ c ∧ c ≤ 'F' := by
  have hchanges : CharSet.ofRanges [(0x30, 0x39), (0x41, 0x46), (0x61, 0x66)] =
      ⟨[48, 58, 65, 71, 97, 103]⟩ := by decide +kernel
  have hwithin : (CharSet.mk [48, 58, 65, 71, 97, 103]).contains c = true ↔
      48 ≤ c.toNat ∧ c.toNat ≤ 57 ∨ 97 ≤ c.toNat ∧ c.toNat ≤ 102 ∨ 65 ≤ c.toNat ∧ c.toNat ≤ 70 := by
    unfold CharSet.contains CharSet.containsCode
    simp only [CharSet.within]
    split_ifs <;> simp <;> omega
  rw [hchanges, hwithin]
  exact Iff.rfl

theorem occursIn_hexRegex (s : String) :
    hexRegex.occursIn s = true ↔ s ≠ "" ∧ ∀ c ∈ s.toList,
      '0' ≤ c ∧ c ≤ '9' ∨ 'a' ≤ c ∧ c ≤ 'f' ∨ 'A' ≤ c ∧ c ≤ 'F' := by
  rw [hexRegex, Regex.occursIn_anchored, ne_eq, ← String.toList_eq_nil_iff]
  simp only [← contains_hexDigits]
  constructor
  · rintro ⟨n, hpos, -, hdigits⟩
    obtain ⟨t, hlength, ht, hafter, -⟩ := Regex.repeated_set_iff.1 hdigits
    rw [List.append_nil] at hafter
    obtain rfl : s.toList = t := hafter
    refine ⟨fun hnil => ?_, ht⟩
    rw [hnil, List.length_nil] at hlength
    omega
  · rintro ⟨hne, hdigits⟩
    refine ⟨s.toList.length, List.length_pos_iff.2 hne, by simp, ?_⟩
    exact Regex.repeated_set_iff.2 ⟨s.toList, rfl, hdigits, (List.append_nil _).symm, rfl⟩

/-- The validator made of the pattern of hexadecimal texts accepts the strings of one digit or more,
and no other value. -/
theorem hex_accepts_iff :
    ofPattern? hexPattern = .ok hex ∧ ∀ details, hex details = .ok () ↔
      ∃ s, details.value = .text s ∧ s ≠ "" ∧ ∀ c ∈ s.toList,
        '0' ≤ c ∧ c ≤ '9' ∨ 'a' ≤ c ∧ c ≤ 'f' ∨ 'A' ≤ c ∧ c ≤ 'F' := by
  constructor
  · rw [ofPattern?, ofPattern?_hexPattern]
    rfl
  intro details
  rw [hex, matching]
  cases hvalue : details.value with
  | text s =>
    have hoccurs := occursIn_hexRegex s
    rw [Regex.occursIn] at hoccurs
    simp [← hoccurs]
  | _ => simp

end Validator

end FeatureFlags
