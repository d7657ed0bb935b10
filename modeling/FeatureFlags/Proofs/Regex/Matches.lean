import FeatureFlags.Regex.Basic
import Mathlib.Logic.Relation

/-!
# What an expression matches

An expression relates the spots of a text at which a match may begin to those at which it may then
end. Parts that follow each other are a composition of relations, and a repetition is a power.
-/
namespace FeatureFlags

namespace CharSet

variable {c d : Char}

theorem contains_none : none.contains c = false := rfl

theorem contains_single : (single d).contains c = true ↔ c = d := by
  unfold contains containsCode single
  rw [← Char.toNat_inj]
  simp only [within]
  split
  next hbelow => exact iff_of_false Bool.false_ne_true (by omega)
  next hfrom =>
    split
    next hlast => exact iff_of_true rfl (by omega)
    next habove => exact iff_of_false Bool.false_ne_true (by omega)

end CharSet

namespace Regex

/-- A place between two characters of a text or at one of its ends. -/
structure Spot where
  before : List Char
  after : List Char

namespace Spot

/-- Some characters stand between two spots. -/
def Over (s : List Char) (x y : Spot) : Prop := x.after = s ++ y.after ∧ y.before = x.before ++ s

variable {s t : List Char} {x y : Spot}

theorem over_nil : Over [] x y ↔ x = y := by
  obtain ⟨before, after⟩ := x
  obtain ⟨before', after'⟩ := y
  simp only [Over, List.nil_append, List.append_nil, mk.injEq]
  exact ⟨fun h => ⟨h.2.symm, h.1⟩, fun h => ⟨h.2, h.1.symm⟩⟩

theorem over_append : Over (s ++ t) x y ↔ Relation.Comp (Over s) (Over t) x y := by
  constructor
  · rintro ⟨hafter, hbefore⟩
    rw [List.append_assoc] at hafter
    rw [← List.append_assoc] at hbefore
    exact ⟨⟨x.before ++ s, t ++ y.after⟩, ⟨hafter, rfl⟩, ⟨rfl, hbefore⟩⟩
  · rintro ⟨z, ⟨hxz, hzx⟩, ⟨hzy, hyz⟩⟩
    exact ⟨by rw [hxz, hzy, List.append_assoc], by rw [hyz, hzx, List.append_assoc]⟩

/-- Behind the end of a text there is no further spot. -/
theorem exists_over_nil_iff {Q : Spot → Prop} {before : List Char} :
    (∃ s y, Over s ⟨before, []⟩ y ∧ Q y) ↔ Q ⟨before, []⟩ := by
  constructor
  · rintro ⟨s, y, hover, hQ⟩
    obtain ⟨rfl, -⟩ := List.append_eq_nil_iff.1 hover.1.symm
    exact over_nil.1 hover ▸ hQ
  · intro hQ
    exact ⟨[], _, over_nil.2 rfl, hQ⟩

/-- The spots from a spot on are itself and those from the next spot on. -/
theorem exists_over_cons_iff {Q : Spot → Prop} {before : List Char} {c : Char} {rest : List Char} :
    (∃ s y, Over s ⟨before, c :: rest⟩ y ∧ Q y) ↔
      Q ⟨before, c :: rest⟩ ∨ ∃ s y, Over s ⟨before ++ [c], rest⟩ y ∧ Q y := by
  constructor
  · rintro ⟨s, y, hover, hQ⟩
    cases s with
    | nil => exact .inl (over_nil.1 hover ▸ hQ)
    | cons d s =>
      rw [← List.singleton_append, over_append] at hover
      obtain ⟨⟨_, _⟩, ⟨hafter, rfl⟩, hover⟩ := hover
      obtain ⟨rfl, rfl⟩ := List.cons.inj hafter
      exact .inr ⟨s, y, hover, hQ⟩
  · rintro (hQ | ⟨s, y, hover, hQ⟩)
    · exact ⟨[], _, over_nil.2 rfl, hQ⟩
    · exact ⟨[c] ++ s, y, over_append.2 ⟨_, ⟨rfl, rfl⟩, hover⟩, hQ⟩

end Spot

/-! ## Matches -/

/-- A relation so many times. -/
def Repeated {α : Type} (M : α → α → Prop) : Nat → α → α → Prop
  | 0 => Eq
  | n + 1 => Relation.Comp M (Repeated M n)

section

variable {α : Type} {M : α → α → Prop} {x y : α}

theorem repeated_add (m n : Nat) :
    Repeated M (m + n) x y ↔ Relation.Comp (Repeated M m) (Repeated M n) x y := by
  induction m generalizing x with
  | zero => simp [Repeated, Relation.Comp]
  | succ m ih =>
    rw [Nat.add_right_comm, Repeated, Repeated, Relation.comp_assoc]
    simp only [Relation.Comp, ih]

/-- Some times and then some more. -/
theorem repeated_add_iff {P : Nat → Prop} (m : Nat) :
    Relation.Comp (Repeated M m) (fun x y => ∃ n, P n ∧ Repeated M n x y) x y ↔
      ∃ n, m ≤ n ∧ P (n - m) ∧ Repeated M n x y := by
  constructor
  · rintro ⟨z, hfirst, n, hP, hrest⟩
    refine ⟨m + n, Nat.le_add_right m n, ?_, (repeated_add m n).2 ⟨z, hfirst, hrest⟩⟩
    rwa [Nat.add_sub_cancel_left]
  · rintro ⟨n, hle, hP, h⟩
    rw [← Nat.add_sub_of_le hle, repeated_add] at h
    obtain ⟨z, hfirst, hrest⟩ := h
    exact ⟨z, hfirst, n - m, hP, hrest⟩

/-- Once and then any number of times. -/
theorem repeated_pos_iff :
    Relation.Comp M (fun x y => ∃ n, Repeated M n x y) x y ↔ ∃ n, 1 ≤ n ∧ Repeated M n x y := by
  constructor
  · rintro ⟨z, hM, n, hrest⟩
    exact ⟨n + 1, Nat.le_add_left 1 n, z, hM, hrest⟩
  · rintro ⟨n, hpos, h⟩
    obtain ⟨n, rfl⟩ := Nat.exists_eq_add_of_le' hpos
    obtain ⟨z, hM, hrest⟩ := h
    exact ⟨z, hM, n, hrest⟩

/-- Not at all, or once and then at most so many times. -/
theorem repeated_le_succ_iff {count : Nat} :
    x = y ∨ Relation.Comp M (fun x y => ∃ n ≤ count, Repeated M n x y) x y ↔
      ∃ n ≤ count + 1, Repeated M n x y := by
  constructor
  · rintro (rfl | ⟨z, hM, n, hn, hrest⟩)
    · exact ⟨0, Nat.zero_le _, rfl⟩
    · exact ⟨n + 1, Nat.succ_le_succ hn, z, hM, hrest⟩
  · rintro ⟨n, hn, h⟩
    cases n with
    | zero => exact .inl h
    | succ n =>
      obtain ⟨z, hM, hrest⟩ := h
      exact .inr ⟨z, hM, n, Nat.le_of_succ_le_succ hn, hrest⟩

end

/-- A match of an expression may begin at one spot and end at the other. A repetition is taken at
least as often as its lower bound says, even where the upper one is below that. -/
def Matches : Regex → Spot → Spot → Prop
  | empty => Eq
  | text s => Spot.Over s
  | set s => fun x y => ∃ c, s.contains c = true ∧ Spot.Over [c] x y
  | look l => fun x y => x = y ∧ l.holds x.before.getLast? x.after.head? = true
  | group _ r => Matches r
  | seq a b => Relation.Comp (Matches a) (Matches b)
  | oneOf texts => fun x y => ∃ s ∈ texts, Spot.Over s x y
  | alt a b => fun x y => Matches a x y ∨ Matches b x y
  | times r least most _ => fun x y =>
    ∃ n, least ≤ n ∧ (∀ m ∈ most, n ≤ max least m) ∧ Repeated (Matches r) n x y

/-- What stands between the ends of a match is some characters of the text. -/
theorem Matches.over {r : Regex} {x y : Spot} (h : r.Matches x y) : ∃ s, Spot.Over s x y := by
  induction r generalizing x y with
  | empty => exact ⟨[], Spot.over_nil.2 h⟩
  | text s => exact ⟨s, h⟩
  | set s =>
    obtain ⟨c, -, hover⟩ := h
    exact ⟨[c], hover⟩
  | look l => exact ⟨[], Spot.over_nil.2 h.1⟩
  | group index r ih => exact ih h
  | seq a b iha ihb =>
    obtain ⟨z, ha, hb⟩ := h
    obtain ⟨s, hs⟩ := iha ha
    obtain ⟨t, ht⟩ := ihb hb
    exact ⟨s ++ t, Spot.over_append.2 ⟨z, hs, ht⟩⟩
  | oneOf texts =>
    obtain ⟨s, -, hover⟩ := h
    exact ⟨s, hover⟩
  | alt a b iha ihb =>
    rcases h with ha | hb
    · exact iha ha
    · exact ihb hb
  | times r least most greedy ih =>
    obtain ⟨n, -, -, h⟩ := h
    induction n generalizing x with
    | zero => exact ⟨[], Spot.over_nil.2 h⟩
    | succ n ihn =>
      obtain ⟨z, hr, hrest⟩ := h
      obtain ⟨s, hs⟩ := ih hr
      obtain ⟨t, ht⟩ := ihn hrest
      exact ⟨s ++ t, Spot.over_append.2 ⟨z, hs, ht⟩⟩

end Regex

end FeatureFlags
