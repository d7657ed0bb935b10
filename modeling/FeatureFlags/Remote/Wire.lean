import FeatureFlags.Resolution
import FeatureFlags.Url.Basic

/-!
# Messages of remote evaluation

What a transport is given and what it brings back; the body of a request for one flag, and the
bodies that answer it with a value or with an error. Fields without a value are left out when a
document is written. Readers take every form that a record may have, so what they accept has many
texts, of which writing gives one.
-/
namespace FeatureFlags.Remote

structure TransportRequest where
  url : Url
  headers : List (String × String)
  body : String

structure TransportResponse where
  status : Nat
  /-- The header that says when to come back. -/
  retryAfter : Option String
  body : ByteArray

/-- Why there is no response. -/
structure TransportFailure where
  message : String

/-! ## Bodies -/

/-- The context in its flat form. -/
structure EvaluationRequest where
  context : Table Json

structure EvaluationSuccess where
  key : String
  value : Json
  reason : Reason
  variant : Option String
  metadata : Option Metadata

structure EvaluationFailure where
  key : Option String
  code : ErrorCode
  details : Option String

namespace EvaluationRequest

def render (r : EvaluationRequest) : String :=
  String.ofList <| Json.recordChars [("context", some (Json.ofTable r.context).chars)]

def ofDocument? (d : Document) : Option EvaluationRequest := do
  let (room, fields) ← d.fields? ["context"] Document.maxDepth
  let context ← fields.orElse 0 .empty (Json.tableOfDocument? room)
  return ⟨context⟩

end EvaluationRequest

namespace EvaluationSuccess

def render (s : EvaluationSuccess) : String :=
  String.ofList <| Json.recordChars
    [("key", some (Json.textChars s.key)),
     ("value", some s.value.chars),
     ("reason", some (Json.textChars s.reason.name)),
     ("variant", s.variant.map Json.textChars),
     ("metadata", s.metadata.map fun m => (Json.ofTable m).chars)]

def ofDocument? (d : Document) : Option EvaluationSuccess := do
  let (room, fields) ← d.fields? ["key", "value", "reason", "variant", "metadata"] Document.maxDepth
  let key ← fields.required 0 Document.toText?
  let value ← fields.required 1 (Json.ofDocument? room)
  let reason ← fields.required 2 Document.toText?
  let variant ← fields.optional 3 Document.toText?
  let metadata ← fields.optional 4 (Json.tableOfDocument? room)
  return ⟨key, value, Reason.ofName reason, variant, metadata⟩

end EvaluationSuccess

namespace EvaluationFailure

def render (f : EvaluationFailure) : String :=
  String.ofList <| Json.recordChars
    [("key", f.key.map Json.textChars),
     ("errorCode", some (Json.textChars f.code.name)),
     ("errorDetails", f.details.map Json.textChars)]

def ofDocument? (d : Document) : Option EvaluationFailure := do
  let (_, fields) ← d.fields? ["key", "errorCode", "errorDetails"] Document.maxDepth
  let key ← fields.optional 0 Document.toText?
  let code ← fields.required 1 ErrorCode.ofDocument?
  let details ← fields.optional 2 Document.toText?
  return ⟨key, code, details⟩

end EvaluationFailure

end FeatureFlags.Remote
