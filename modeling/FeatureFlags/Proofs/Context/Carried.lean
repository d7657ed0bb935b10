import FeatureFlags.Proofs.Context.Flat

/-!
# Contexts from their flat form

The flat form of a context is taken apart again at the other end of a request. The context that
arrives is the one that was sent, without an empty targeting key, and with null in place of every
number that is not finite (`ofFlat_flatten`). An attribute of the targeting key's name would pass
for the key, so there must be none.
-/
namespace FeatureFlags

namespace Attribute

mutual

/-- An attribute with null for every number that is not finite. -/
def finite : Attribute → Attribute
  | .null => .null
  | .bool b => .bool b
  | .int i => .int i
  | .float x => if x.isFinite then .float x else .null
  | .text s => .text s
  | .list items => .list (itemsFinite items)
  | .struct fields => .struct (fieldsFinite fields)

def itemsFinite : List Attribute → List Attribute
  | [] => []
  | a :: rest => finite a :: itemsFinite rest

def fieldsFinite : List (String × Attribute) → List (String × Attribute)
  | [] => []
  | (name, a) :: rest => (name, finite a) :: fieldsFinite rest

end

mutual

/-- The JSON form of an attribute says all but the numbers that are not finite. -/
theorem ofJson_toJson : ∀ a : Attribute, ofJson a.toJson = a.finite
  | .null | .bool _ | .int _ | .text _ => rfl
  | .float x => by
    rw [toJson, Json.ofDouble, Json.Number.ofDouble?, finite]
    by_cases h : x.isFinite = true
    · rw [dif_pos h, if_pos h]
      rfl
    · rw [dif_neg h, if_neg h]
      rfl
  | .list items => by rw [toJson, ofJson, finite, itemsOfJson_itemsToJson items]
  | .struct fields => by rw [toJson, ofJson, finite, fieldsOfJson_fieldsToJson fields]

theorem itemsOfJson_itemsToJson : ∀ items : List Attribute,
    itemsOfJson (itemsToJson items) = itemsFinite items
  | [] => rfl
  | a :: rest => by
    rw [itemsToJson, itemsOfJson, itemsFinite, ofJson_toJson a, itemsOfJson_itemsToJson rest]

theorem fieldsOfJson_fieldsToJson : ∀ fields : List (String × Attribute),
    fieldsOfJson (fieldsToJson fields) = fieldsFinite fields
  | [] => rfl
  | (name, a) :: rest => by
    rw [fieldsToJson, fieldsOfJson, fieldsFinite, ofJson_toJson a, fieldsOfJson_fieldsToJson rest]

end

end Attribute

namespace Context

/-- What of a context is carried by its flat form. -/
def carried (c : Context) : Context := ⟨c.targetingKey?, c.attributes.map Attribute.finite⟩

/-- A context is read from its flat form, unless an attribute takes the targeting key's place. -/
theorem ofFlat_flatten {c : Context} (h : c.attribute? targetingKeyName = none) :
    ofFlat c.flatten = .ok c.carried := by
  have hkey : c.flatten.get? targetingKeyName = c.targetingKey?.map Json.text := by
    rw [get?_flatten, if_pos rfl, h, Option.map_none, Option.or_none]
  have hattributes : (c.flatten.erase targetingKeyName).map Attribute.ofJson =
      c.attributes.map Attribute.finite := by
    apply Table.ext_get?
    intro name
    rw [Table.get?_map, Table.get?_erase, Table.get?_map]
    by_cases hname : name = targetingKeyName
    · subst hname
      rw [attribute?] at h
      simp [h]
    · rw [get?_flatten, if_neg hname]
      simp only [attribute?, hname, if_false, Option.map_map]
      exact congrArg (Option.map · _) (funext Attribute.ofJson_toJson)
  rw [ofFlat, hattributes, hkey, carried]
  cases c.targetingKey? with
  | none => rfl
  | some key => rfl

end Context

end FeatureFlags
