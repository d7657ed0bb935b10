import FeatureFlags.Attribute.Basic
import FeatureFlags.Json.Printer
import FeatureFlags.Json.Reading

/-!
# Attribute values as text

Attribute values are written and read directly, without a JSON value in between: the form is told
from the document, an integer that fits before a float.
-/
namespace FeatureFlags.Attribute

mutual

def chars : Attribute → List Char
  | .null => ['n', 'u', 'l', 'l']
  | .bool true => ['t', 'r', 'u', 'e']
  | .bool false => ['f', 'a', 'l', 's', 'e']
  | .int i => Json.intChars i.toInt
  | .float x => if x.isFinite then x.chars else ['n', 'u', 'l', 'l']
  | .text s => Json.textChars s
  | .list items => Json.enclose '[' ']' (itemsChars items)
  | .struct fields => Json.enclose '{' '}' (fieldsChars fields)

def itemsChars : List Attribute → List (List Char)
  | [] => []
  | a :: rest => chars a :: itemsChars rest

def fieldsChars : List (String × Attribute) → List (List Char)
  | [] => []
  | (name, a) :: rest => Json.memberChars name (chars a) :: fieldsChars rest

end

def render (a : Attribute) : String := String.ofList a.chars

mutual

/-- The value of a document, at most `room` levels deep. Of several fields of one name the last
counts. -/
def ofDocument? (room : Nat) : Document → Option Attribute
  | .null => some .null
  | .bool b => some (.bool b)
  | .number n => n.map fun n =>
    match n.toInt64? with
    | some i => .int i
    | none => .float n.toDouble
  | .text s => s.map .text
  | .array items =>
    match room with
    | 0 => none
    | room + 1 => (itemsOfDocuments? room items).map .list
  | .object members =>
    match room with
    | 0 => none
    | room + 1 => (fieldsOfDocuments? room members).map fun fs => .struct (Entries.ofList fs)

def itemsOfDocuments? (room : Nat) : List Document → Option (List Attribute)
  | [] => some []
  | d :: rest => do
    let item ← ofDocument? room d
    let items ← itemsOfDocuments? room rest
    return item :: items

def fieldsOfDocuments? (room : Nat) :
    List (Option String × Document) → Option (List (String × Attribute))
  | [] => some []
  | (name, d) :: rest => do
    let name ← name
    let value ← ofDocument? room d
    let fields ← fieldsOfDocuments? room rest
    return (name, value) :: fields

end

/-- Attributes from a document that is an object. -/
def tableOfDocument? (room : Nat) (d : Document) : Option Attributes :=
  match ofDocument? room d with
  | some (.struct fields) => some (Table.ofList fields)
  | _ => none

def ofText? (s : String) : Option Attribute :=
  Document.ofText? s >>= ofDocument? Document.maxDepth

end FeatureFlags.Attribute
