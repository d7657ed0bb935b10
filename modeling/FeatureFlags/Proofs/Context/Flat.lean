import FeatureFlags.Context
import FeatureFlags.Proofs.Json.Printed
import FeatureFlags.Table.Lookup

/-!
# Flat contexts

A cache tells contexts apart by the text of their flat form. The text says all there is in the flat
form (`flatten_of_canonicalText`), and the flat form says all that targeting looks at
(`alike_of_flatten`), with one exception: the targeting key is written as a member among the
attributes, where an attribute of that name may pass for it or be hidden by it.
-/
namespace FeatureFlags

/-! ## Criteria -/

namespace Double

/-- A number that is not finite agrees with no finite one. -/
theorem not_agrees {x y : Double} (hx : x.isFinite = true) (hy : y.isFinite = false) :
    x.agrees y = false := by
  have hne : (x == y) = false := by
    rw [beq_eq_false_iff_ne]
    rintro rfl
    rw [hx] at hy
    cases hy
  have hzero : y.isZero = false := by
    rw [isFinite, decide_eq_false_iff_not] at hy
    rw [isZero, beq_eq_false_iff_ne]
    intro h
    rw [h] at hy
    exact hy (by decide)
  rw [agrees, hne, hzero, Bool.and_false, Bool.or_false, Bool.and_false]

end Double

theorem Json.Number.toDouble_isFinite (n : Json.Number) : n.toDouble.isFinite = true := by
  cases n with
  | int i =>
    have hlow := i.le_toInt
    have hhigh := i.toInt_lt
    exact Double.ofInt_isFinite (by omega)
  | large n above =>
    have hhigh := n.toNat_lt
    exact Double.ofInt_isFinite (by omega)
  | float x finite => exact finite

/-- Whether a criterion is met by an attribute of a JSON form. -/
def Json.meets : Json → Json → Bool
  | .number (.int i), .number n => n.toInt64? == some i || n.toDouble.agrees (Double.ofInt i.toInt)
  | .number (.float x _), .number n => n.toDouble.agrees x
  | a, j => a.agrees j

/-- Targeting looks at the JSON form of an attribute only. -/
theorem Attribute.matchesJson_eq (a : Attribute) (j : Json) :
    a.matchesJson j = a.toJson.meets j := by
  cases a with
  | null | bool _ | text _ | list _ | struct _ => rfl
  | int i => cases j <;> rfl
  | float x =>
    by_cases hx : x.isFinite = true
    · have hjson : (Attribute.float x).toJson = .number (.float x hx) := by
        simp [toJson, Json.ofDouble, Json.Number.ofDouble?, hx]
      rw [hjson]
      cases j with
      | number n => rfl
      | null | bool _ | text _ | array _ | object _ => exact congrArg (Json.agrees · _) hjson
    · -- such a number has the form of null, and there is no number that it agrees with
      have hjson : (Attribute.float x).toJson = .null := by
        simp [toJson, Json.ofDouble, Json.Number.ofDouble?, hx]
      rw [hjson]
      cases j with
      | number n => exact Double.not_agrees n.toDouble_isFinite (Bool.eq_false_iff.2 hx)
      | null | bool _ | text _ | array _ | object _ => exact congrArg (Json.agrees · _) hjson

namespace Context

/-! ## Flat forms -/

theorem get?_flatten (c : Context) (name : String) : c.flatten.get? name =
    if name = targetingKeyName then
      (c.targetingKey?.map Json.text).or ((c.attribute? name).map Attribute.toJson)
    else (c.attribute? name).map Attribute.toJson := by
  rw [flatten, attribute?]
  cases c.targetingKey? with
  | none => simp
  | some key => by_cases hname : name = targetingKeyName <;> simp [hname]

/-- Contexts with the same text have the same flat form. -/
theorem flatten_of_canonicalText {c c' : Context} (h : c.canonicalText = c'.canonicalText) :
    c.flatten = c'.flatten :=
  Table.ext (Json.object.inj (Json.render_inj h))

/-- No attribute is mixed up with the targeting key: one of its name is not hidden by the key, and
is not a text that passes for a key. -/
def Separate (c : Context) : Prop :=
  ∀ a, c.attribute? targetingKeyName = some a →
    c.targetingKey? = none ∧ ∀ key, a = .text key → key = ""

/-- Contexts that targeting cannot tell apart. -/
structure Alike (c c' : Context) : Prop where
  targetingKey : c.targetingKey? = c'.targetingKey?
  attributes : ∀ name,
    (c.attribute? name).map Attribute.toJson = (c'.attribute? name).map Attribute.toJson

theorem targetingKey?_ne_empty {c : Context} {key : String} (h : c.targetingKey? = some key) :
    key ≠ "" := by
  have hkey := (Option.filter_eq_some_iff.1 h).2
  simpa using hkey

theorem toJson_eq_text {a : Attribute} {key : String} (h : a.toJson = .text key) :
    a = .text key := by
  cases a with
  | text s => rw [Json.text.inj h]
  | float x =>
    rw [Attribute.toJson, Json.ofDouble] at h
    split at h <;> cases h
  | null | bool _ | int _ | list _ | struct _ => cases h

/-- The targeting key of a separate context, from its flat form. -/
theorem targetingKey?_of_flatten {c : Context} (h : c.Separate) : c.targetingKey? =
    ((c.flatten.get? targetingKeyName).bind Json.toText?).filter (· ≠ "") := by
  rw [get?_flatten, if_pos rfl]
  cases hkey : c.targetingKey? with
  | some key =>
    rw [eq_comm, Option.filter_eq_some_iff]
    exact ⟨rfl, decide_eq_true (targetingKey?_ne_empty hkey)⟩
  | none =>
    rw [Option.map_none, Option.none_or, eq_comm, Option.filter_eq_none_iff]
    intro key hkey hne
    obtain ⟨j, hj, htext⟩ := Option.bind_eq_some_iff.1 hkey
    obtain ⟨a, ha, rfl⟩ := Option.map_eq_some_iff.1 hj
    have hform : a.toJson = .text key := by
      cases hjson : a.toJson <;> rw [hjson] at htext <;> cases htext
      rfl
    exact of_decide_eq_true hne ((h a ha).2 key (toJson_eq_text hform))

/-- The attributes of a separate context, from its flat form. -/
theorem attribute?_of_flatten {c : Context} (h : c.Separate) (name : String) :
    (c.attribute? name).map Attribute.toJson =
      if name = targetingKeyName ∧ c.targetingKey?.isSome then none else c.flatten.get? name := by
  rw [get?_flatten]
  by_cases hname : name = targetingKeyName
  · subst hname
    cases hkey : c.targetingKey? with
    | none => simp
    | some key =>
      have hnone : c.attribute? targetingKeyName = none := by
        refine Option.eq_none_iff_forall_not_mem.2 fun a ha => ?_
        rw [(h a ha).1] at hkey
        cases hkey
      simp [hnone]
  · simp [hname]

/-- What targeting looks at is in the flat form, unless an attribute is mixed up with the key. -/
theorem alike_of_flatten {c c' : Context} (hc : c.Separate) (hc' : c'.Separate)
    (h : c.flatten = c'.flatten) : c.Alike c' := by
  have hkey : c.targetingKey? = c'.targetingKey? := by
    rw [targetingKey?_of_flatten hc, targetingKey?_of_flatten hc', h]
  refine ⟨hkey, fun name => ?_⟩
  rw [attribute?_of_flatten hc, attribute?_of_flatten hc', hkey, h]

end Context

end FeatureFlags
