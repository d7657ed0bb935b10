import FeatureFlags.Context
import FeatureFlags.Resolution

/-!
# Flag definitions

A flag as a document: variants in an order, some of them for certain contexts, and the name of the
default one. The first variant whose targeting key and criteria all hold is served; a variant
without any is never a match, but it can be the default.
-/
namespace FeatureFlags

structure Criterion where
  key : String
  value : Json

structure VariantDefinition where
  name : String
  value : Json
  targetingKey : Option String
  criteria : List Criterion

structure FlagDefinition where
  defaultVariant : Option String
  variants : List VariantDefinition

namespace Criterion

def ofDocument? (room : Nat) (d : Document) : Option Criterion := do
  let (room, fields) ← d.fields? ["key", "value"] room
  let key ← fields.required 0 Document.toText?
  let value ← fields.required 1 (Json.ofDocument? room)
  return ⟨key, value⟩

def holds (criterion : Criterion) (c : Context) : Bool :=
  match c.attribute? criterion.key with
  | some a => a.matchesJson criterion.value
  | none => false

end Criterion

namespace VariantDefinition

def ofDocument? (room : Nat) (d : Document) : Option VariantDefinition := do
  let (room, fields) ← d.fields? ["name", "value", "targetingKey", "criteria"] room
  let name ← fields.required 0 Document.toText?
  let value ← fields.required 1 (Json.ofDocument? room)
  let targetingKey ← fields.optional 2 Document.toText?
  let criteria ← fields.orElse 3 [] (Document.list? Criterion.ofDocument? room)
  return ⟨name, value, targetingKey, criteria⟩

/-- Whether the variant is meant for certain contexts only. -/
def isTargeted (v : VariantDefinition) : Bool := v.targetingKey.isSome || !v.criteria.isEmpty

def isMatch (v : VariantDefinition) (c : Context) : Bool :=
  v.isTargeted && (v.targetingKey.all fun key => c.targetingKey? == some key) &&
    v.criteria.all (·.holds c)

end VariantDefinition

namespace FlagDefinition

def ofDocument? (d : Document) : Option FlagDefinition := do
  let (room, fields) ← d.fields? ["defaultVariant", "variants"] Document.maxDepth
  let defaultVariant ← fields.nullableUnlessPositional 0 Document.toText?
  let variants ← fields.orElse 1 [] (Document.list? VariantDefinition.ofDocument? room)
  return ⟨defaultVariant, variants⟩

def ofText? (s : String) : Option FlagDefinition := Document.ofText? s >>= ofDocument?

def default? (f : FlagDefinition) : Option VariantDefinition :=
  f.defaultVariant.bind fun name => f.variants.find? (·.name = name)

/-- The variant for a context, and why it is that one. -/
def choose? (f : FlagDefinition) (c : Context) : Option (VariantDefinition × Reason) :=
  match f.variants.find? (·.isMatch c) with
  | some v => some (v, .targetingMatch)
  | none => f.default?.map (·, .default)

/-- The answer of a flag. No other variant is tried if the value of the chosen one has another
type. -/
def answer (f : FlagDefinition) (flag : String) (t : FlagType) (default : t.Value) (c : Context) :
    Resolution t.Value :=
  match f.choose? c with
  | none => .failed default (Fault.undefinedDefaultVariant flag).error
  | some (v, reason) =>
    match t.ofJson? v.value with
    | some value => ⟨value, some v.name, some reason, none, .empty⟩
    | none => .failed default (Fault.variantNotOfType v.name t).error

end FlagDefinition

end FeatureFlags
