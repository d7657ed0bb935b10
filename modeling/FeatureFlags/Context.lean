import FeatureFlags.Attribute.Text
import FeatureFlags.Fault

/-!
# Evaluation contexts

For whom and for what a flag is evaluated: a targeting key and attributes. An empty targeting key
counts as none. Contexts merge with the first one winning, and travel as one flat object in which
the targeting key is a member among the attributes.
-/
namespace FeatureFlags

structure Context where
  targetingKey : Option String
  attributes : Attributes

namespace Context

/-- The member that holds the targeting key of a flat context. -/
def targetingKeyName : String := "targetingKey"

def empty : Context := ⟨none, .empty⟩

instance : EmptyCollection Context := ⟨empty⟩

instance : Inhabited Context := ⟨empty⟩

/-- The targeting key, unless it is empty. -/
def targetingKey? (c : Context) : Option String := c.targetingKey.filter (· ≠ "")

def attribute? (c : Context) (name : String) : Option Attribute := c.attributes.get? name

def isEmpty (c : Context) : Bool := c.targetingKey?.isNone && c.attributes.isEmpty

/-- One object of all attributes and the targeting key, which hides an attribute of its name. -/
def flatten (c : Context) : Table Json :=
  let flat := c.attributes.map Attribute.toJson
  match c.targetingKey? with
  | some key => flat.insert targetingKeyName (.text key)
  | none => flat

/-- The context of a flat object; its targeting key has to be a string or null. -/
def ofFlat (flat : Table Json) : Except EvaluationError Context :=
  let attributes := (flat.erase targetingKeyName).map Attribute.ofJson
  match flat.get? targetingKeyName with
  | some (.text key) => .ok ⟨some key, attributes⟩
  | some .null | none => .ok ⟨none, attributes⟩
  | some _ => .error Fault.invalidTargetingKey.error

/-- What the first context says, completed by what only the second one says. -/
def mergeTwo (first second : Context) : Context where
  targetingKey := first.targetingKey?.or second.targetingKey?
  attributes := second.attributes.entries.foldl (fun t e => t.insertIfNew e.1 e.2) first.attributes

/-- One context of many: of every part the first that is there. -/
def merge (contexts : List Context) : Context := contexts.foldl mergeTwo empty

/-- The text by which a cache tells contexts apart. -/
def canonicalText (c : Context) : String := (Json.ofTable c.flatten).render

/-- Text of a context; a missing targeting key is left out. -/
def render (c : Context) : String :=
  String.ofList <| Json.recordChars
    [(targetingKeyName, c.targetingKey.map Json.textChars),
     ("attributes", some (Attribute.struct c.attributes.entries).chars)]

def ofDocument? (room : Nat) (d : Document) : Option Context := do
  let (room, fields) ← d.fields? [targetingKeyName, "attributes"] room
  let key ← fields.optional 0 Document.toText?
  let attributes ← fields.orElse 1 .empty (Attribute.tableOfDocument? room)
  return ⟨key, attributes⟩

def ofText? (s : String) : Option Context := Document.ofText? s >>= ofDocument? Document.maxDepth

end Context

end FeatureFlags
