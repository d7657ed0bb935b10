import FeatureFlags.Json.Document

/-!
# Spellings of numbers

A number is written as digits, perhaps with a fraction and an exponent. Such a text is read part for
part as it was put together (`readNumeral?_append`), whatever follows it, as long as that could not
go on with the number.
-/
namespace FeatureFlags.Document

open Text (Symbol)

/-! ## Digits -/

/-- What the digits of a text stand for. -/
def digitValues (digits : List Char) : List Nat := digits.map fun c => c.toNat - '0'.toNat

theorem ofDigits_digitValues (digits : List Char) :
    ofDigits (digitValues digits) = Nat.ofDigitChars 10 digits 0 := by
  rw [ofDigits, digitValues, List.foldl_map]
  rfl

theorem ofDigits_toDigits (n : Nat) : ofDigits (digitValues (Nat.toDigits 10 n)) = n := by
  rw [ofDigits_digitValues, Nat.ofDigitChars_ten_toDigits]

/-- A text of digits only. -/
def Digits (digits : List Char) : Prop := ∀ c ∈ digits, c.isDigit = true

theorem digits_toDigits (n : Nat) : Digits (Nat.toDigits 10 n) := fun _ hc =>
  Nat.isDigit_of_mem_toDigits (by decide) (by decide) hc

theorem Digits.append {l l' : List Char} (h : Digits l) (h' : Digits l') : Digits (l ++ l') :=
  fun c hc => (List.mem_append.1 hc).elim (h c) (h' c)

theorem digits_zeros (n : Nat) : Digits (List.replicate n '0') := fun c hc => by
  rw [List.eq_of_mem_replicate hc]
  rfl

/-- Only zero is written with a zero in front. -/
theorem toDigits_lead (n : Nat) {rest : List Char} (h : Nat.toDigits 10 n = '0' :: rest) :
    n = 0 ∧ rest = [] := by
  induction n using Nat.strongRecOn generalizing rest with
  | ind n ih =>
    rcases Nat.lt_or_ge n 10 with hn | hn
    · rw [Nat.toDigits_of_lt_base hn] at h
      obtain ⟨hchar, hrest⟩ := List.cons.inj h
      exact ⟨Nat.digitChar_eq_zero.1 hchar, hrest.symm⟩
    · rw [Nat.toDigits_of_base_le (by decide) hn] at h
      obtain ⟨c, front, hfront⟩ := List.exists_cons_of_ne_nil (Nat.toDigits_ne_nil (n := n / 10)
        (b := 10))
      rw [hfront, List.cons_append] at h
      rw [(List.cons.inj h).1] at hfront
      have hsmaller := ih (n / 10) (by omega) hfront
      omega

theorem digit?_of_isDigit {c : Char} (h : c.isDigit = true) :
    digit? c = some (c.toNat - '0'.toNat) := by
  have hbounds : '0' ≤ c ∧ c ≤ '9' := by
    rw [Char.isDigit, Bool.and_eq_true, decide_eq_true_eq, decide_eq_true_eq] at h
    exact h
  rw [digit?, if_pos hbounds]

theorem eq_zero_of_value {c : Char} (h : c.isDigit = true) (hzero : c.toNat - '0'.toNat = 0) :
    c = '0' := by
  have hbounds : '0' ≤ c := by
    rw [Char.isDigit, Bool.and_eq_true, decide_eq_true_eq] at h
    exact h.1
  have hnat : c.toNat = '0'.toNat := Nat.le_antisymm (Nat.sub_eq_zero_iff_le.1 hzero) hbounds
  rw [← Char.ofNat_toNat c, hnat]
  rfl

/-- No digit is the next symbol. -/
def DigitsEnd (s : List Symbol) : Prop := ∀ c, s.head? = some (some c) → digit? c = none

theorem readDigits_of_end {s : List Symbol} (h : DigitsEnd s) : readDigits s = ([], s) := by
  rcases s with _ | ⟨_ | c, rest⟩
  · rfl
  · rfl
  · rw [readDigits, h c rfl]

theorem readDigits_append {digits : List Char} (hdigits : Digits digits) {s : List Symbol}
    (hend : DigitsEnd s) : readDigits (digits.map some ++ s) = (digitValues digits, s) := by
  induction digits with
  | nil => exact readDigits_of_end hend
  | cons c digits ih =>
    have hc := digit?_of_isDigit (hdigits c List.mem_cons_self)
    have hrest := ih fun d hd => hdigits d (List.mem_cons_of_mem c hd)
    rw [List.map_cons, List.cons_append, readDigits, hc]
    simp only [hrest]
    rfl

theorem readDigits?_append {digits : List Char} (hdigits : Digits digits) (hne : digits ≠ [])
    {s : List Symbol} (hend : DigitsEnd s) :
    readDigits? (digits.map some ++ s) = some (digitValues digits, s) := by
  obtain ⟨c, rest, rfl⟩ := List.exists_cons_of_ne_nil hne
  rw [readDigits?, readDigits_append hdigits hend]
  rfl

/-! ## Spellings -/

/-- The text of a number without its sign, in its parts. -/
structure Spelling where
  whole : List Char
  fraction : List Char
  exponent : Option Int
  whole_digits : Digits whole
  whole_ne_nil : whole ≠ []
  lead : ∀ rest, whole = '0' :: rest → rest = []
  fraction_digits : Digits fraction

namespace Spelling

def fractionChars (s : Spelling) : List Char :=
  if s.fraction = [] then [] else '.' :: s.fraction

/-- An exponent is written with its sign. -/
def exponentChars (s : Spelling) : List Char :=
  match s.exponent with
  | none => []
  | some e => 'e' :: (if e < 0 then '-' else '+') :: Nat.toDigits 10 e.natAbs

def chars (s : Spelling) : List Char := s.whole ++ (s.fractionChars ++ s.exponentChars)

/-- The number with a sign, as it is read. -/
def numeral (s : Spelling) (negative : Bool) : Numeral where
  negative := negative
  whole := digitValues s.whole
  fraction := digitValues s.fraction
  exponent := s.exponent.getD 0
  integral := (digitValues s.fraction).isEmpty && s.exponent.isNone

end Spelling

def signChars (negative : Bool) : List Char := if negative then ['-'] else []

/-- The next symbol does not go on with a number. -/
def NumberEnds (s : List Symbol) : Prop :=
  ∀ c, s.head? = some (some c) → digit? c = none ∧ c ≠ '.' ∧ c ≠ 'e' ∧ c ≠ 'E'

section

variable {rest : List Symbol}

theorem NumberEnds.digits (h : NumberEnds rest) : DigitsEnd rest := fun c hc => (h c hc).1

theorem readExponent?_append (s : Spelling) (hend : NumberEnds rest) :
    readExponent? (s.exponentChars.map some ++ rest) = some (s.exponent, rest) := by
  rw [Spelling.exponentChars]
  rcases s.exponent with _ | e
  · rcases rest with _ | ⟨_ | c, rest⟩
    · rfl
    · rfl
    · obtain ⟨-, -, he, hE⟩ := hend c rfl
      exact if_neg (not_or.2 ⟨he, hE⟩)
  · have hdigits := readDigits?_append (digits_toDigits e.natAbs) Nat.toDigits_ne_nil hend.digits
    rcases Int.lt_or_le e 0 with hneg | hpos
    · simp only [if_pos hneg, List.map_cons, List.cons_append, readExponent?, readSign, hdigits]
      change some (some (-(ofDigits (digitValues (Nat.toDigits 10 e.natAbs)) : Int)), rest) = _
      rw [ofDigits_toDigits, Int.ofNat_natAbs_of_nonpos (Int.le_of_lt hneg), Int.neg_neg]
    · simp only [if_neg (Int.not_lt.2 hpos), List.map_cons, List.cons_append, readExponent?,
        readSign, hdigits]
      change some (some (ofDigits (digitValues (Nat.toDigits 10 e.natAbs)) : Int), rest) = _
      rw [ofDigits_toDigits, Int.natAbs_of_nonneg hpos]

/-- Behind the fraction neither a digit nor a point follows. -/
theorem fraction_ends (s : Spelling) (hend : NumberEnds rest) {c : Char}
    (hc : (s.exponentChars.map some ++ rest).head? = some (some c)) :
    digit? c = none ∧ c ≠ '.' := by
  rw [Spelling.exponentChars] at hc
  rcases hexp : s.exponent with _ | e
  · rw [hexp] at hc
    exact ⟨(hend c hc).1, (hend c hc).2.1⟩
  · rw [hexp] at hc
    cases hc
    decide

theorem readFraction?_append (s : Spelling) (hend : NumberEnds rest) :
    readFraction? (s.fractionChars.map some ++ (s.exponentChars.map some ++ rest)) =
      some (digitValues s.fraction, s.exponentChars.map some ++ rest) := by
  have hends : ∀ c, (s.exponentChars.map some ++ rest).head? = some (some c) →
      digit? c = none ∧ c ≠ '.' := fun c hc => fraction_ends s hend hc
  rw [Spelling.fractionChars]
  generalize s.exponentChars.map some ++ rest = behind at hends ⊢
  split
  next hnone =>
    rw [hnone]
    rcases behind with _ | ⟨_ | c, behind⟩
    · rfl
    · rfl
    · have hpoint := (hends c rfl).2
      simp [readFraction?, hpoint, digitValues]
  next hsome => exact readDigits?_append s.fraction_digits hsome fun c hc => (hends c hc).1

/-- Behind the whole part no digit follows. -/
theorem whole_ends (s : Spelling) (hend : NumberEnds rest) :
    DigitsEnd (s.fractionChars.map some ++ (s.exponentChars.map some ++ rest)) := by
  intro c hc
  rw [Spelling.fractionChars] at hc
  split at hc
  · exact (fraction_ends s hend hc).1
  · cases hc
    rfl

theorem readWhole?_append (s : Spelling) {behind : List Symbol} (hend : DigitsEnd behind) :
    readWhole? (s.whole.map some ++ behind) = some (digitValues s.whole, behind) := by
  have hdigits := readDigits?_append s.whole_digits s.whole_ne_nil hend
  rw [readWhole?, hdigits]
  split
  next heq =>
    obtain ⟨c, whole, hwhole⟩ := List.exists_cons_of_ne_nil s.whole_ne_nil
    rw [hwhole] at heq
    obtain ⟨hfirst, hmore⟩ := List.cons.inj (Prod.mk.inj (Option.some.inj heq)).1
    have hc := eq_zero_of_value (s.whole_digits c (hwhole ▸ List.mem_cons_self)) hfirst
    rw [s.lead whole (hc ▸ hwhole)] at hmore
    cases hmore
  next => rfl

theorem readNumeral?_append (s : Spelling) (negative : Bool) (hend : NumberEnds rest) :
    readNumeral? ((signChars negative ++ s.chars).map some ++ rest) =
      some (s.numeral negative, rest) := by
  have hwhole := readWhole?_append s (whole_ends s hend)
  have hfraction := readFraction?_append s hend
  have hexponent := readExponent?_append s hend
  have hchars : s.chars.map some ++ rest =
      s.whole.map some ++ (s.fractionChars.map some ++ (s.exponentChars.map some ++ rest)) := by
    simp [Spelling.chars]
  rw [List.map_append, List.append_assoc, hchars]
  cases negative with
  | true =>
    simp only [signChars, if_true, List.map_cons, List.map_nil, List.cons_append, List.nil_append,
      readNumeral?, hwhole, hfraction, hexponent, Option.bind_eq_bind, Option.bind_some]
    rfl
  | false =>
    have hsign : ∀ behind, s.whole.map some ++ (s.fractionChars.map some ++
        (s.exponentChars.map some ++ rest)) ≠ some '-' :: behind := by
      obtain ⟨c, whole, hc⟩ := List.exists_cons_of_ne_nil s.whole_ne_nil
      intro behind h
      rw [hc, List.map_cons, List.cons_append] at h
      obtain rfl : c = '-' := Option.some.inj (List.cons.inj h).1
      exact absurd (s.whole_digits '-' (hc ▸ List.mem_cons_self)) (by decide)
    simp only [signChars, Bool.false_eq_true, if_false, List.map_nil, List.nil_append]
    rw [readNumeral?]
    · simp only [hwhole, hfraction, hexponent, Option.bind_eq_bind, Option.bind_some]
      rfl
    · exact hsign

end

end FeatureFlags.Document
