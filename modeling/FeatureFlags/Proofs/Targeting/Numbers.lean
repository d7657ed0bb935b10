import FeatureFlags.Proofs.Double.Value
import FeatureFlags.Proofs.Targeting.Selection

/-!
# Numbers as conditions

An integer meets a condition with a number if the number is the one nearest to the integer, and this
is so also where the condition is an integer itself: what is compared are the nearest numbers of
both. Main statement: for integers that are numbers, and for all below 2^53, it is the value alone
that counts (`Attribute.numbers_compared`). Larger ones may be taken for each other.
-/
namespace FeatureFlags

namespace Double

/-- The number that is taken for an integer. -/
def nearest (i : Int64) : ℚ := (ofInt i.toInt).value

/-- An integer is a finite number itself. -/
def Exact (i : Int64) : Prop := ∃ y : Double, y.isFinite = true ∧ y.value = i.toInt

variable {a b i : Int64}

theorem natAbs_toInt_lt (i : Int64) : i.toInt.natAbs < 2 ^ 64 := by
  have hlow := i.le_toInt
  have hhigh := i.toInt_lt
  omega

theorem nearest_isFinite (i : Int64) : (ofInt i.toInt).isFinite = true :=
  ofInt_isFinite (natAbs_toInt_lt i)

theorem nearest_le (i : Int64) (y : Double) : |nearest i - i.toInt| ≤ |y.value - i.toInt| :=
  ofInt_nearest (natAbs_toInt_lt i) y

theorem exact_of_le (h : i.toInt.natAbs ≤ 2 ^ 53) : Exact i :=
  ⟨ofInt i.toInt, nearest_isFinite i, value_ofInt_small h⟩

theorem nearest_of_exact (h : Exact i) : nearest i = i.toInt := by
  obtain ⟨y, -, hy⟩ := h
  exact value_ofInt_of_value (natAbs_toInt_lt i) hy

/-- Integers that are numbers have different ones, and those below 2^53 share theirs with none. -/
theorem eq_of_nearest (h : Exact a ∧ Exact b ∨ a.toInt.natAbs < 2 ^ 53 ∨ b.toInt.natAbs < 2 ^ 53)
    (hsame : nearest a = nearest b) : a = b := by
  rw [← Int64.toInt_inj]
  rcases h with ⟨ha, hb⟩ | ha | hb
  · rw [nearest_of_exact ha, nearest_of_exact hb] at hsame
    exact_mod_cast hsame
  · exact eq_of_value_ofInt ha (natAbs_toInt_lt b) hsame
  · exact (eq_of_value_ofInt hb (natAbs_toInt_lt a) hsame.symm).symm

end Double

namespace Attribute

open Double (nearest nearest_isFinite Exact)

variable {a b : Int64} {x : Double}

theorem matches_int (a b : Int64) :
    (int a).matchesJson (.ofInt64 b) = true ↔ nearest a = nearest b := by
  have hagrees : (Double.ofInt b.toInt).agrees (Double.ofInt a.toInt) = true ↔
      nearest b = nearest a := Double.agrees_iff (nearest_isFinite b) (nearest_isFinite a)
  have hmatches : (int a).matchesJson (.ofInt64 b) = true ↔ b = a ∨ nearest b = nearest a := by
    rw [← hagrees]
    simp [matchesJson, Json.ofInt64, Json.Number.toInt64?, Json.Number.toDouble]
  rw [hmatches]
  constructor
  · rintro (rfl | h)
    · rfl
    · exact h.symm
  · exact fun h => .inr h.symm

theorem matches_float (a : Int64) (hx : x.isFinite = true) :
    (int a).matchesJson (.ofDouble x) = true ↔ x.value = nearest a := by
  have hnumber : Json.ofDouble x = .number (.float x hx) := by
    simp [Json.ofDouble, Json.Number.ofDouble?, hx]
  rw [hnumber, nearest, ← Double.agrees_iff hx (nearest_isFinite a)]
  simp [matchesJson, Json.Number.toInt64?, Json.Number.toDouble]

/-- A variant with an integer among its conditions is a match only for integers of its number. -/
theorem nearest_of_chosen {f : FlagDefinition} {v : VariantDefinition} {c : Context}
    {criterion : Criterion} (hchosen : f.choose? c = some (v, .targetingMatch))
    (hmem : criterion ∈ v.criteria) (hattribute : c.attribute? criterion.key = some (.int a))
    (hvalue : criterion.value = .ofInt64 b) : nearest a = nearest b := by
  obtain ⟨i, hi⟩ := FlagDefinition.choose?_eq_some_iff.1 hchosen
  cases hi with
  | matched hfirst =>
    obtain ⟨d, hd, hmatches⟩ := hfirst.holds.criteria criterion hmem
    obtain rfl : .int a = d := Option.some.inj (hattribute.symm.trans hd)
    rw [hvalue] at hmatches
    exact (matches_int a b).1 hmatches

/-- An integer is compared by the number nearest to it. So it is its value that counts if it is a
number itself, and an integer of another value is not taken for it if that is a number too, or if
one of them is below 2^53. -/
theorem numbers_compared (a b : Int64) :
    (∀ y : Double, y.isFinite = true → |nearest a - a.toInt| ≤ |y.value - a.toInt|) ∧
    ((int a).matchesJson (.ofInt64 b) = true ↔ nearest a = nearest b) ∧
    (∀ x : Double, x.isFinite = true →
      ((int a).matchesJson (.ofDouble x) = true ↔ x.value = nearest a) ∧
      (Exact a → ((int a).matchesJson (.ofDouble x) = true ↔ x.value = a.toInt))) ∧
    (∀ (v : VariantDefinition) (c : Context) (criterion : Criterion), criterion ∈ v.criteria →
      c.attribute? criterion.key = some (.int a) → criterion.value = .ofInt64 b →
      nearest a ≠ nearest b → ∀ f : FlagDefinition, f.choose? c ≠ some (v, .targetingMatch)) ∧
    (Exact a ∧ Exact b ∨ a.toInt.natAbs < 2 ^ 53 ∨ b.toInt.natAbs < 2 ^ 53 →
      ((int a).matchesJson (.ofInt64 b) = true ↔ a = b) ∧
      (a ≠ b → nearest a ≠ nearest b)) := by
  refine ⟨fun y _ => Double.nearest_le a y, matches_int a b, ?_, ?_, ?_⟩
  · intro x hx
    refine ⟨matches_float a hx, fun hexact => ?_⟩
    rw [matches_float a hx, Double.nearest_of_exact hexact]
  · intro v c criterion hmem hattribute hvalue hne f hchosen
    exact hne (nearest_of_chosen hchosen hmem hattribute hvalue)
  · intro hapart
    rw [matches_int]
    exact ⟨⟨Double.eq_of_nearest hapart, congrArg nearest⟩, mt (Double.eq_of_nearest hapart)⟩

/-- A variant for one integer. -/
def onlyVariant (i : Int64) : VariantDefinition := ⟨"on", .bool true, none, [⟨"n", .ofInt64 i⟩]⟩

theorem numbers_compared_large :
    let a : Int64 := 9007199254740992
    let b : Int64 := 9007199254740991
    ((int a).matchesJson (.ofDouble (Double.ofInt a.toInt)) = true ↔
      (Double.ofInt a.toInt).value = a.toInt) ∧
    (int a).matchesJson (.ofInt64 b) ≠ true ∧
    ∀ f : FlagDefinition, f.choose? ⟨none, Table.empty.insert "n" (.int a)⟩ ≠
      some (onlyVariant b, .targetingMatch) := by
  intro a b
  obtain ⟨-, -, hfloat, hchosen, hapart⟩ := numbers_compared a b
  obtain ⟨hiff, hnearest⟩ := hapart (.inr (.inr (by decide)))
  refine ⟨(hfloat _ (nearest_isFinite a)).2 (Double.exact_of_le (by decide)), ?_, ?_⟩
  · rw [ne_eq, hiff]
    decide
  · exact hchosen (onlyVariant b) _ ⟨"n", .ofInt64 b⟩ List.mem_cons_self rfl rfl
      (hnearest (by decide))

end Attribute

namespace VariableSource

open Attribute (onlyVariant)

/-- A definition of a flag that is on for one integer. -/
def onlyFor (i : Int64) : Json :=
  .object [("defaultVariant", .text "off"), ("variants", .array [
    .object [("name", .text "on"), ("value", .bool true), ("criteria", .array [
      .object [("key", .text "n"), ("value", .ofInt64 i)]])],
    .object [("name", .text "off"), ("value", .bool false)]])]

theorem on_onlyFor {i : Int64} {c : Context} (hmatch : (onlyVariant i).isMatch c = true) :
    ∃ s, (((VariableSource.mk 0 false).provider {}).resolve .boolean "f" false c).on
      (holding (onlyFor i)) = (.ok ⟨true, some "on", some .targetingMatch, none, .empty⟩, s) := by
  obtain ⟨s, hrun, -⟩ :=
    (VariableSource.mk 0 false).on_resolve {} .boolean "f" false c (holding (onlyFor i))
  have hread : FlagDefinition.ofText? (onlyFor i).render =
      some ⟨some "off", [onlyVariant i, ⟨"off", .bool false, none, []⟩]⟩ :=
    FlagDefinition.ofText?_render rfl
  refine ⟨s, hrun.trans ?_⟩
  rw [answer_of_definition (lookup_holding (onlyFor i)) hread]
  simp only [FlagDefinition.answer, FlagDefinition.choose?, List.find?_cons, hmatch]
  rfl

/-- Beyond 2^53 an integer is taken for the one next to it, and a flag that is only for the one is
on for the other. -/
theorem integers_confused :
    let a : Int64 := 9007199254740992
    let b : Int64 := 9007199254740993
    a ≠ b ∧ (Attribute.int a).matchesJson (.ofInt64 b) = true ∧
    (Double.ofInt a.toInt).value ≠ b.toInt ∧
    (Attribute.int b).matchesJson (.ofDouble (Double.ofInt a.toInt)) = true ∧
    ∃ s, (((VariableSource.mk 0 false).provider {}).resolve .boolean "f" false
      ⟨none, Table.empty.insert "n" (.int a)⟩).on (holding (onlyFor b)) =
      (.ok ⟨true, some "on", some .targetingMatch, none, .empty⟩, s) := by
  intro a b
  have hsame : Double.ofInt a.toInt = Double.ofInt b.toInt := by decide +kernel
  have hnearest : Double.nearest a = Double.nearest b := congrArg Double.value hsame
  have hvalue : Double.nearest a = a.toInt :=
    Double.nearest_of_exact (Double.exact_of_le (by decide))
  have hmatch : (onlyVariant b).isMatch ⟨none, Table.empty.insert "n" (.int a)⟩ = true := by
    decide +kernel
  refine ⟨by decide, (Attribute.matches_int a b).2 hnearest, ?_, ?_, on_onlyFor hmatch⟩
  · rw [← Double.nearest, hvalue]
    exact_mod_cast (by decide : a.toInt ≠ b.toInt)
  · exact (Attribute.matches_float b (Double.nearest_isFinite a)).2 hnearest

end VariableSource

end FeatureFlags
