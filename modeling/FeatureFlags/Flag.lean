import FeatureFlags.Json.Basic

/-!
# Flag types

A flag is asked for as one of five types. Every type has its values and a way between these and
JSON, which is the form in which backends, caches and hooks hold them.
-/
namespace FeatureFlags

inductive FlagType where
  | boolean
  | string
  | integer
  | float
  | object
deriving DecidableEq, Repr

namespace FlagType

def name : FlagType → String
  | .boolean => "BOOLEAN"
  | .string => "STRING"
  | .integer => "INTEGER"
  | .float => "FLOAT"
  | .object => "OBJECT"

/-- The values of a type. -/
abbrev Value : FlagType → Type
  | .boolean => Bool
  | .string => String
  | .integer => Int64
  | .float => Double
  | .object => Json

/-- The value that a JSON value has as a flag of the type, if any. An integer is a float as well,
but no float is an integer. -/
def ofJson? : (t : FlagType) → Json → Option t.Value
  | .boolean, j => j.toBool?
  | .string, j => j.toText?
  | .integer, j => j.toNumber? >>= Json.Number.toInt64?
  | .float, j => j.toNumber?.map Json.Number.toDouble
  | .object, j => some j

def toJson : (t : FlagType) → t.Value → Json
  | .boolean, b => .bool b
  | .string, s => .text s
  | .integer, i => .ofInt64 i
  | .float, x => .ofDouble x
  | .object, j => j

/-- Equality of values, with floats compared as numbers. -/
def agrees : (t : FlagType) → t.Value → t.Value → Bool
  | .boolean, a, b => a == b
  | .string, a, b => a == b
  | .integer, a, b => a == b
  | .float, a, b => Double.agrees a b
  | .object, a, b => Json.agrees a b

end FlagType

end FeatureFlags
