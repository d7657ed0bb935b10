import FeatureFlags.Context

/-!
# Flags held in memory

A flag has named variants and serves its default one, unless it selects another one for the context.
-/
namespace FeatureFlags

structure MemoryFlag where
  defaultVariant : String
  variants : Table Json
  enabled : Bool
  /-- The variant for a context; no variant falls through to the default one. -/
  select : Option (Context → Option String)
  metadata : Table Json

/-- A rule that selects a variant: for a targeting key, for an attribute that is there or has a
value, or always. -/
structure TargetingRule where
  targetingKey : Option String
  attributeName : Option String
  /-- The JSON form that the attribute has to have. -/
  equals : Option Json
  variant : String

namespace TargetingRule

def attributeHolds (r : TargetingRule) (c : Context) (name : String) : Bool :=
  match c.attribute? name with
  | none => false
  | some a => r.equals.all fun j => a.toJson.agrees j

def holds (r : TargetingRule) (c : Context) : Bool :=
  (r.targetingKey.all fun key => c.targetingKey? == some key) &&
    r.attributeName.all (r.attributeHolds c)

/-- The variant of the first rule that holds. -/
def select (rules : List TargetingRule) (c : Context) : Option String :=
  (rules.find? (·.holds c)).map (·.variant)

end TargetingRule

end FeatureFlags
