import FeatureFlags.Client
import FeatureFlags.Remote.Provider

/-!
# Serving evaluations

A handler answers requests for single flags with the evaluations of a client. The flag's key is what
follows a path prefix. Checks come in a fixed order: method, path, key, body, evaluation.
-/
namespace FeatureFlags.Remote

structure HandlerOptions where
  checkMethod : Bool := true
  /-- Without this check any path is served, and its last segment is the key. -/
  checkPath : Bool := true
  pathLead : String := "/ofrep/v1/evaluate/flags/"

structure HttpRequest where
  method : String
  target : String
  body : ByteArray

structure HttpResponse where
  status : Nat
  headers : List (String × String)
  body : String

namespace HttpRequest

/-- The text behind the scheme and the authority of an absolute target. -/
def afterAuthority? : List Char → Option (List Char)
  | ':' :: '/' :: '/' :: rest => some (rest.dropWhile fun c => c ≠ '/' && c ≠ '?' && c ≠ '#')
  | c :: rest => if c = '/' then none else afterAuthority? rest
  | [] => none

/-- The path of a target, without query and fragment. The path of an absolute target is never empty;
a target that is a bare authority has none. -/
def pathOf (target : List Char) : List Char :=
  let untilQuery (s : List Char) : List Char := s.takeWhile fun c => c ≠ '?' && c ≠ '#'
  if target.head? = some '/' then untilQuery target
  else if target = ['*'] then target
  else match afterAuthority? target with
    | none => []
    | some rest => if (untilQuery rest).isEmpty then ['/'] else untilQuery rest

def path (r : HttpRequest) : List Char := pathOf r.target.toList

end HttpRequest

structure Handler where
  client : Client
  options : HandlerOptions := {}

namespace Handler

/-- What follows the last slash. -/
def lastSegment (path : List Char) : List Char := (path.reverse.takeWhile (· ≠ '/')).reverse

/-- The flag's key in a path, unless the path is not served. -/
def flagKey? (o : HandlerOptions) (path : List Char) : Option (List Char) :=
  let lead := o.pathLead.toList
  if lead.isPrefixOf path then some (path.drop lead.length)
  else if o.checkPath then none
  else some (lastSegment path)

def isBlankByte (b : UInt8) : Bool := b == 32 || b == 9 || b == 10 || b == 12 || b == 13

/-- The context of a request; a blank body stands for the empty one. -/
def readContext (body : ByteArray) : Except String Context :=
  if body.data.all isBlankByte then .ok .empty
  else match Document.ofBytes? body >>= EvaluationRequest.ofDocument? with
    | none => .error ("invalid request body: " ++ Document.unreadable)
    | some request => (Context.ofFlat request.context).mapError (·.details)

def bare (status : Nat) (headers : List (String × String)) : HttpResponse := ⟨status, headers, ""⟩

def json (status : Nat) (body : String) : HttpResponse :=
  ⟨status, [("content-type", "application/json")], body⟩

def failure (status : Nat) (key : Option String) (code : ErrorCode) (details : String) :
    HttpResponse :=
  json status (EvaluationFailure.mk key code (some details)).render

/-- The response for an evaluation. -/
def respond (flag : String) (e : Evaluation Json) : HttpResponse :=
  match e.error with
  | none => json 200 <| EvaluationSuccess.render {
      key := e.flag
      value := e.value
      reason := e.reason.getD .unknown
      variant := e.variant
      metadata := if e.metadata.isEmpty then none else some e.metadata }
  | some error =>
    match error.code with
    | .flagNotFound | .invalidContext | .targetingKeyMissing =>
      failure 404 (some flag) .flagNotFound error.details
    | _ => failure 500 (some flag) .general error.details

def handle (h : Handler) (request : HttpRequest) : Eval HttpResponse := do
  if h.options.checkMethod && request.method ≠ "POST" then return bare 405 [("allow", "POST")]
  match flagKey? h.options request.path with
  | none => return bare 404 []
  | some [] => return failure 404 none .flagNotFound "flag key is missing"
  | some key =>
    let flag := String.ofList key
    match readContext request.body with
    | .error details =>
      Eval.report .debug ("rejecting malformed OFREP request: " ++ details)
        [("flag_key", .text flag)]
      return failure 400 (some flag) .parseError details
    | .ok c => return respond flag (← h.client.details .object flag .null (some c) {})

/-- Hands requests to a handler in the same process. -/
def transport (h : Handler) : Transport := fun request => do
  let response ← h.handle ⟨"POST", request.url.text, request.body.toUTF8⟩
  return .ok ⟨response.status, none, response.body.toUTF8⟩

end Handler

end FeatureFlags.Remote
