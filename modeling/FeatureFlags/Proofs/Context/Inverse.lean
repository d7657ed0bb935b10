import FeatureFlags.Proofs.Context.Carried

/-!
# The flat form and its inverse

A context and its flat form determine each other, up to the two ways to have no targeting key
(`flatten_inverse`). On the way through a flat form a context loses the numbers that are not finite,
and a flat object loses the integers beyond the signed range, which attributes do not know. All else
comes back at any depth.
-/
namespace FeatureFlags

namespace Attribute

mutual

/-- Every number in an attribute is finite. -/
def AllFinite : Attribute → Prop
  | .null | .bool _ | .int _ | .text _ => True
  | .float x => x.isFinite = true
  | .list items => ItemsAllFinite items
  | .struct fields => FieldsAllFinite fields

def ItemsAllFinite : List Attribute → Prop
  | [] => True
  | a :: rest => AllFinite a ∧ ItemsAllFinite rest

def FieldsAllFinite : List (String × Attribute) → Prop
  | [] => True
  | (_, a) :: rest => AllFinite a ∧ FieldsAllFinite rest

end

mutual

theorem finite_of_allFinite : ∀ {a : Attribute}, a.AllFinite → a.finite = a
  | .null, _ | .bool _, _ | .int _, _ | .text _, _ => rfl
  | .float x, h => by
    rw [AllFinite] at h
    rw [finite, if_pos h]
  | .list items, h => by
    rw [AllFinite] at h
    rw [finite, itemsFinite_of_allFinite h]
  | .struct fields, h => by
    rw [AllFinite] at h
    rw [finite, fieldsFinite_of_allFinite h]

theorem itemsFinite_of_allFinite : ∀ {items : List Attribute}, ItemsAllFinite items →
    itemsFinite items = items
  | [], _ => rfl
  | a :: rest, h => by
    rw [ItemsAllFinite] at h
    rw [itemsFinite, finite_of_allFinite h.1, itemsFinite_of_allFinite h.2]

theorem fieldsFinite_of_allFinite : ∀ {fields : List (String × Attribute)},
    FieldsAllFinite fields → fieldsFinite fields = fields
  | [], _ => rfl
  | (name, a) :: rest, h => by
    rw [FieldsAllFinite] at h
    rw [fieldsFinite, finite_of_allFinite h.1, fieldsFinite_of_allFinite h.2]

end

end Attribute

namespace Json

mutual

/-- Every integer in a value is in the signed range of 64 bits. -/
def Signed : Json → Prop
  | .null | .bool _ | .text _ => True
  | .number n => ∀ i above, n ≠ .large i above
  | .array items => ItemsSigned items
  | .object members => MembersSigned members

def ItemsSigned : List Json → Prop
  | [] => True
  | item :: rest => Signed item ∧ ItemsSigned rest

def MembersSigned : List (String × Json) → Prop
  | [] => True
  | (_, value) :: rest => Signed value ∧ MembersSigned rest

end

end Json

namespace Attribute

theorem toJson_ofNumber {n : Json.Number} (h : ∀ i above, n ≠ .large i above) :
    (ofNumber n).toJson = .number n := by
  cases n with
  | int i => rfl
  | large i above => exact absurd rfl (h i above)
  | float x finite =>
    have hnumber : Json.Number.ofDouble? x = some (.float x finite) := dif_pos finite
    show Json.ofDouble x = .number (.float x finite)
    rw [Json.ofDouble, hnumber]

mutual

/-- An attribute says all of a value but the form of its large integers. -/
theorem toJson_ofJson : ∀ {j : Json}, j.Signed → (ofJson j).toJson = j
  | .null, _ | .bool _, _ | .text _, _ => rfl
  | .number n, h => by
    rw [Json.Signed] at h
    exact toJson_ofNumber h
  | .array items, h => by
    rw [Json.Signed] at h
    rw [ofJson, toJson, itemsToJson_itemsOfJson h]
  | .object members, h => by
    rw [Json.Signed] at h
    rw [ofJson, toJson, fieldsToJson_fieldsOfJson h]

theorem itemsToJson_itemsOfJson : ∀ {items : List Json}, Json.ItemsSigned items →
    itemsToJson (itemsOfJson items) = items
  | [], _ => rfl
  | item :: rest, h => by
    rw [Json.ItemsSigned] at h
    rw [itemsOfJson, itemsToJson, toJson_ofJson h.1, itemsToJson_itemsOfJson h.2]

theorem fieldsToJson_fieldsOfJson : ∀ {members : List (String × Json)},
    Json.MembersSigned members → fieldsToJson (fieldsOfJson members) = members
  | [], _ => rfl
  | (name, value) :: rest, h => by
    rw [Json.MembersSigned] at h
    rw [fieldsOfJson, fieldsToJson, toJson_ofJson h.1, fieldsToJson_fieldsOfJson h.2]

end

end Attribute

namespace Context

variable {c : Context} {f : Table Json}

theorem carried_of_allFinite (h : ∀ name a, c.attribute? name = some a → a.AllFinite) :
    c.carried = { c with targetingKey := c.targetingKey? } := by
  have hattributes : c.attributes.map Attribute.finite = c.attributes := by
    apply Table.ext_get?
    intro name
    rw [Table.get?_map]
    cases ha : c.attributes.get? name with
    | none => rfl
    | some a => exact congrArg some (Attribute.finite_of_allFinite (h name a ha))
  rw [carried, hattributes]

/-! ## Reading a flat object -/

/-- What is neither a string nor null is no targeting key. -/
def NoKey (j : Json) : Prop := j ≠ .null ∧ ∀ key, j ≠ .text key

theorem ofFlat_eq_error_iff (f : Table Json) (e : EvaluationError) : ofFlat f = .error e ↔
    e = Fault.invalidTargetingKey.error ∧ ∃ j, f.get? targetingKeyName = some j ∧ NoKey j := by
  rw [ofFlat]
  cases hkey : f.get? targetingKeyName with
  | none => simp
  | some j => cases j <;> simp [NoKey, eq_comm]

/-- A context that was read has the attributes of the object and the key that stands for its
targeting key. -/
theorem ofFlat_eq_ok (h : ofFlat f = .ok c) :
    c.attributes = (f.erase targetingKeyName).map Attribute.ofJson ∧
      (f.get? targetingKeyName = c.targetingKey.map .text ∨
        f.get? targetingKeyName = some .null ∧ c.targetingKey = none) := by
  rw [ofFlat] at h
  cases hkey : f.get? targetingKeyName with
  | none =>
    rw [hkey] at h
    obtain rfl := Except.ok.inj h
    exact ⟨rfl, .inl rfl⟩
  | some j =>
    rw [hkey] at h
    cases j with
    | text key =>
      obtain rfl := Except.ok.inj h
      exact ⟨rfl, .inl rfl⟩
    | null =>
      obtain rfl := Except.ok.inj h
      exact ⟨rfl, .inr ⟨rfl, rfl⟩⟩
    | bool | number | array | object => cases h

theorem attribute?_of_ofFlat (h : ofFlat f = .ok c) (name : String) : c.attribute? name =
    if name = targetingKeyName then none else (f.get? name).map Attribute.ofJson := by
  rw [attribute?, (ofFlat_eq_ok h).1, Table.get?_map, Table.get?_erase]
  by_cases hname : name = targetingKeyName <;> simp [hname]

/-- A flat object, without a targeting key that is null or empty. -/
def withoutBlankKey (f : Table Json) : Table Json :=
  if f.get? targetingKeyName = some .null ∨ f.get? targetingKeyName = some (.text "") then
    f.erase targetingKeyName
  else f

theorem get?_withoutBlankKey (f : Table Json) (name : String) : (withoutBlankKey f).get? name =
    if name = targetingKeyName then (f.get? name).filter fun j => j ≠ .null ∧ j ≠ .text ""
    else f.get? name := by
  rw [withoutBlankKey]
  by_cases hname : name = targetingKeyName
  · subst hname
    rw [if_pos rfl]
    cases hkey : f.get? targetingKeyName with
    | none => simp [hkey]
    | some j => by_cases hnull : j = .null <;> by_cases hblank : j = .text "" <;>
      simp [Option.filter, *]
  · rw [if_neg hname]
    split
    · rw [Table.get?_erase, if_neg hname]
    · rfl

/-- The key of a context that was read, as the flat form has it. -/
theorem targetingKey?_of_ofFlat (h : ofFlat f = .ok c) : c.targetingKey?.map Json.text =
    (f.get? targetingKeyName).filter fun j => j ≠ .null ∧ j ≠ .text "" := by
  rw [targetingKey?]
  rcases (ofFlat_eq_ok h).2 with hkey | ⟨hnull, hnone⟩
  · rw [hkey]
    cases c.targetingKey with
    | none => rfl
    | some key => by_cases hempty : key = "" <;> simp [Option.filter, hempty]
  · rw [hnull, hnone]
    rfl

/-- A flat object is the flat form of the context that is read from it. -/
theorem flatten_of_ofFlat (h : ofFlat f = .ok c)
    (hsigned : ∀ name j, f.get? name = some j → j.Signed) : c.flatten = withoutBlankKey f := by
  apply Table.ext_get?
  intro name
  rw [get?_flatten, get?_withoutBlankKey, attribute?_of_ofFlat h]
  by_cases hname : name = targetingKeyName
  · subst hname
    rw [if_pos rfl, if_pos rfl, if_pos rfl, targetingKey?_of_ofFlat h, Option.map_none,
      Option.or_none]
  · rw [if_neg hname, if_neg hname, if_neg hname, Option.map_map]
    cases hj : f.get? name with
    | none => rfl
    | some j => exact congrArg some (Attribute.toJson_ofJson (hsigned name j hj))

/-- Reading undoes flattening, and flattening undoes reading where an object can be read. -/
theorem flatten_inverse :
    (∀ c : Context, c.attribute? targetingKeyName = none →
      (∀ name a, c.attribute? name = some a → a.AllFinite) →
      ofFlat c.flatten = .ok { c with targetingKey := c.targetingKey? }) ∧
    (∀ (f : Table Json) (e : EvaluationError), ofFlat f = .error e ↔
      e = ⟨.invalidContext, some "targetingKey must be a string"⟩ ∧
        ∃ j, f.get? targetingKeyName = some j ∧ NoKey j) ∧
    ∀ (f : Table Json) (c : Context), ofFlat f = .ok c →
      (∀ name j, f.get? name = some j → j.Signed) → c.flatten = withoutBlankKey f := by
  refine ⟨fun c hkey hfinite => ?_, ofFlat_eq_error_iff, fun f c => flatten_of_ofFlat⟩
  rw [ofFlat_flatten hkey, carried_of_allFinite hfinite]

/-- An empty targeting key beside a nested attribute. -/
def unnamed : Context :=
  ⟨some "", Table.empty.insert "plan" (.struct [("seats", .list [.int 3, .float (.ofInt 1)])])⟩

theorem flatten_inverse_unnamed :
    let f : Table Json := unnamed.flatten.insert targetingKeyName (.text "")
    unnamed.attribute? targetingKeyName = none ∧
      ofFlat unnamed.flatten = .ok { unnamed with targetingKey := none } ∧
      ofFlat f = .ok unnamed ∧ unnamed.flatten = f.erase targetingKeyName ∧
      ofFlat (f.insert targetingKeyName (.bool true)) = .error Fault.invalidTargetingKey.error := by
  intro f
  obtain ⟨hread, hrefused, hwritten⟩ := flatten_inverse
  have hkey : unnamed.attribute? targetingKeyName = none := rfl
  have hone : (Double.ofInt 1).isFinite = true := by decide
  have hfinite (name : String) (a : Attribute) (ha : unnamed.attribute? name = some a) :
      a.AllFinite := by
    obtain ⟨-, rfl⟩ := by simpa [unnamed, attribute?] using ha
    exact ⟨⟨trivial, hone, trivial⟩, trivial⟩
  have hok : ofFlat f = .ok unnamed := rfl
  have hsigned (name : String) (j : Json) (hj : f.get? name = some j) : j.Signed := by
    by_cases hname : name = targetingKeyName
    · obtain rfl : .text "" = j := by simpa [f, hname] using hj
      trivial
    · obtain ⟨-, rfl⟩ := by
        simpa [f, hname, get?_flatten, unnamed, attribute?] using hj
      have hnumber : Json.ofDouble (.ofInt 1) = .number (.float (.ofInt 1) hone) := rfl
      simp [Attribute.toJson, Attribute.itemsToJson, Attribute.fieldsToJson, Json.Signed,
        Json.ItemsSigned, Json.MembersSigned, Json.ofInt64, hnumber]
  have hblank : withoutBlankKey f = f.erase targetingKeyName := if_pos (.inr rfl)
  refine ⟨hkey, hread unnamed hkey hfinite, hok, (hwritten f _ hok hsigned).trans hblank, ?_⟩
  exact (hrefused _ _).2 ⟨rfl, .bool true, by simp, by simp [NoKey]⟩

end Context

end FeatureFlags
