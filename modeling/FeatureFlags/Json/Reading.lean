import FeatureFlags.Json.Document

/-!
# Reading values from documents

Typed readers over documents. Values may nest only so deep; each reader is told how many levels are
still allowed. A *record* is a document with declared fields: an object, whose other members are
passed over unread, or an array of the fields in their order.
-/
namespace FeatureFlags

/-- Levels of arrays and objects that a value may have. -/
def Document.maxDepth : Nat := 127

/-- How a failure to read a document is worded inside a message: one fixed wording that stands for
all the messages of a reader, which say what it met and at which place. -/
def Document.unreadable : String := "malformed document"

namespace Json

mutual

/-- The value of a document, at most `room` levels deep. Of several members of one name the last
counts. -/
def ofDocument? (room : Nat) : Document → Option Json
  | .null => some .null
  | .bool b => some (.bool b)
  | .number n => n.map .number
  | .text s => s.map .text
  | .array items =>
    match room with
    | 0 => none
    | room + 1 => (itemsOfDocuments? room items).map .array
  | .object members =>
    match room with
    | 0 => none
    | room + 1 => (membersOfDocuments? room members).map fun ms => .object (Entries.ofList ms)

def itemsOfDocuments? (room : Nat) : List Document → Option (List Json)
  | [] => some []
  | d :: rest => do
    let item ← ofDocument? room d
    let items ← itemsOfDocuments? room rest
    return item :: items

def membersOfDocuments? (room : Nat) :
    List (Option String × Document) → Option (List (String × Json))
  | [] => some []
  | (name, d) :: rest => do
    let name ← name
    let value ← ofDocument? room d
    let members ← membersOfDocuments? room rest
    return (name, value) :: members

end

/-- A table from a document that is an object. -/
def tableOfDocument? (room : Nat) (d : Document) : Option (Table Json) :=
  match ofDocument? room d with
  | some (.object members) => some (Table.ofList members)
  | _ => none

def ofText? (s : String) : Option Json := Document.ofText? s >>= ofDocument? Document.maxDepth

end Json

namespace Document

def toText? : Document → Option String
  | .text s => s
  | _ => none

/-- The fields of a record, in declared order. -/
structure Fields where
  /-- The record was given as an array; a field that may be left out of an object may still be
  required here. -/
  positional : Bool
  values : List (Option Document)

/-- What an object says of a declared field; saying it twice is an error. -/
def member? (members : List (String × Document)) (name : String) : Option (Option Document) :=
  match members.filter (·.1 = name) with
  | [] => some none
  | [m] => some (some m.2)
  | _ => none

/-- The declared fields of a record, with the levels left for their values. -/
def fields? (names : List String) (room : Nat) (d : Document) : Option (Nat × Fields) :=
  match room, d with
  | room + 1, .object members => do
    let members ← members.mapM fun m => m.1.map (·, m.2)
    let values ← names.mapM (member? members)
    return (room, ⟨false, values⟩)
  | room + 1, .array items =>
    if items.length ≤ names.length then
      some (room, ⟨true, items.map some ++ List.replicate (names.length - items.length) none⟩)
    else none
  | _, _ => none

namespace Fields

def get (f : Fields) (i : Nat) : Option Document := f.values.getD i none

/-- A field that has to be there. -/
def required (f : Fields) (i : Nat) (read : Document → Option α) : Option α := f.get i >>= read

/-- A field with a value for its absence; null is not absence. -/
def orElse (f : Fields) (i : Nat) (absent : α) (read : Document → Option α) : Option α :=
  match f.get i with
  | none => some absent
  | some d => read d

private def nullable (read : Document → Option α) : Document → Option (Option α)
  | .null => some none
  | d => (read d).map some

/-- A field that may be null or left out. -/
def optional (f : Fields) (i : Nat) (read : Document → Option α) : Option (Option α) :=
  f.orElse i none (nullable read)

/-- A field that may be null, and may be left out of an object but not of an array. -/
def nullableUnlessPositional (f : Fields) (i : Nat) (read : Document → Option α) :
    Option (Option α) :=
  if f.positional then f.required i (nullable read) else f.optional i read

end Fields

/-- A list from a document that is an array. -/
def list? (read : Nat → Document → Option α) (room : Nat) : Document → Option (List α)
  | .array items =>
    match room with
    | 0 => none
    | room + 1 => items.mapM (read room)
  | _ => none

end Document

end FeatureFlags
