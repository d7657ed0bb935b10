import FeatureFlags.Json.Basic

/-!
# Attribute values

What an attribute of an evaluation context can hold. Attributes know integers and binary64 numbers;
their JSON form loses the numbers that are not finite, and a JSON integer beyond the signed range
becomes a float.
-/
namespace FeatureFlags

inductive Attribute where
  | null
  | bool (value : Bool)
  | int (value : Int64)
  | float (value : Double)
  | text (value : String)
  | list (items : List Attribute)
  | struct (fields : List (String × Attribute))

namespace Attribute

instance : Inhabited Attribute := ⟨.null⟩

/-- The name of the kind of a value. -/
def kind : Attribute → String
  | .null => "Null"
  | .bool _ => "Boolean"
  | .int _ => "Integer"
  | .float _ => "Float"
  | .text _ => "String"
  | .list _ => "List"
  | .struct _ => "Struct"

def toText? : Attribute → Option String
  | .text s => some s
  | _ => none

def ofNumber : Json.Number → Attribute
  | .int i => .int i
  | n => .float n.toDouble

mutual

def toJson : Attribute → Json
  | .null => .null
  | .bool b => .bool b
  | .int i => .ofInt64 i
  | .float x => .ofDouble x
  | .text s => .text s
  | .list items => .array (itemsToJson items)
  | .struct fields => .object (fieldsToJson fields)

def itemsToJson : List Attribute → List Json
  | [] => []
  | a :: rest => toJson a :: itemsToJson rest

def fieldsToJson : List (String × Attribute) → List (String × Json)
  | [] => []
  | (name, a) :: rest => (name, toJson a) :: fieldsToJson rest

end

mutual

def ofJson : Json → Attribute
  | .null => .null
  | .bool b => .bool b
  | .number n => ofNumber n
  | .text s => .text s
  | .array items => .list (itemsOfJson items)
  | .object members => .struct (fieldsOfJson members)

def itemsOfJson : List Json → List Attribute
  | [] => []
  | j :: rest => ofJson j :: itemsOfJson rest

def fieldsOfJson : List (String × Json) → List (String × Attribute)
  | [] => []
  | (name, j) :: rest => (name, ofJson j) :: fieldsOfJson rest

end

mutual

/-- Equality of values of one kind, with floats compared as numbers. -/
def agrees : Attribute → Attribute → Bool
  | .null, .null => true
  | .bool a, .bool b => a == b
  | .int a, .int b => a == b
  | .float a, .float b => a.agrees b
  | .text a, .text b => a == b
  | .list a, .list b => itemsAgree a b
  | .struct a, .struct b => fieldsAgree a b
  | _, _ => false

def itemsAgree : List Attribute → List Attribute → Bool
  | [], [] => true
  | a :: as, b :: bs => agrees a b && itemsAgree as bs
  | _, _ => false

def fieldsAgree : List (String × Attribute) → List (String × Attribute) → Bool
  | [], [] => true
  | (m, a) :: as, (n, b) :: bs => m == n && agrees a b && fieldsAgree as bs
  | _, _ => false

end

/-- A targeting criterion: a number is met by an attribute of the same value in either form, as far
as binary64 can tell an integer from a float; all else has to be equal. -/
def matchesJson (a : Attribute) (j : Json) : Bool :=
  match a, j with
  | .int i, .number n => n.toInt64? == some i || n.toDouble.agrees (Double.ofInt i.toInt)
  | .float x, .number n => n.toDouble.agrees x
  | a, j => a.toJson.agrees j

end Attribute

/-- The attributes of a context by name. -/
abbrev Attributes := Table Attribute

end FeatureFlags
