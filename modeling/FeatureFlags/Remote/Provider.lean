import FeatureFlags.Date.Header
import FeatureFlags.Provider.Basic
import FeatureFlags.Remote.Settings
import FeatureFlags.Remote.Wire
import FeatureFlags.Text.Unsigned
import FeatureFlags.Url.Segments

/-!
# Remote providers

Flags from a service that is asked at every evaluation. When the service refuses requests for their
rate, none is sent until the time it gave has passed: a number of seconds, or a date. Without a
usable answer the default applies, and no answer holds requests back for longer than a day. Times
are in milliseconds.
-/
namespace FeatureFlags.Remote

def defaultRetryDelay : Nat := 60000

def maxRetryDelay : Nat := 86400000

def requestedDelay (text : List Char) (now : Nat) : Nat :=
  match Text.unsigned? text with
  | .ok seconds => 1000 * seconds
  | .error _ =>
    match Date.moment? text with
    | some moment => moment.delay now
    | none => defaultRetryDelay

def retryDelay (header : Option String) (now : Nat) : Nat :=
  match header with
  | none => defaultRetryDelay
  | some text => min (requestedDelay (Text.trim text.toList) now) maxRetryDelay

/-- Sends a request and brings back the response. -/
abbrev Transport := TransportRequest → Eval (Except TransportFailure TransportResponse)

structure Service where
  owner : Nat
  base : Url
  headers : List (String × String)
  transport : Transport

/-- The segments under which a service answers for single flags. -/
def evaluationPath : List String := ["ofrep", "v1", "evaluate", "flags"]

namespace Service

/-- A service by its settings; its URL has to be one to which a path can be added. -/
def ofSettings (owner : Nat) (settings : RemoteSettings) (transport : Transport) :
    Except SetupError Service :=
  match Url.ofText? settings.baseUrl with
  | none => .error .malformedBaseUrl
  | some base =>
    if base.isBase then .ok ⟨owner, base, settings.requestHeaders, transport⟩
    else .error (.notABase settings.baseUrl)

def evaluationUrl (s : Service) (flag : String) : Url := s.base.extend (evaluationPath ++ [flag])

/-- The time until which no request is sent, if it is still to come; a time that is over is
forgotten. -/
def suspendedUntil (s : Service) : Eval (Option Nat) := do
  let store ← get
  match (store.suspensions s.owner).filter (store.now < ·) with
  | some time => return some time
  | none =>
    set { store with suspensions := store.suspensions.set s.owner none }
    return none

def suspend (s : Service) (until_ : Nat) : Eval Unit :=
  modify fun store => { store with suspensions := store.suspensions.set s.owner (some until_) }

/-- The failure that a body holds, if it holds one. -/
def failure? (body : ByteArray) : Option EvaluationFailure :=
  Document.ofBytes? body >>= EvaluationFailure.ofDocument?

/-- The answer in a body of a response of success. -/
def success (body : ByteArray) : Except EvaluationError (Resolution Json) :=
  match Document.ofBytes? body >>= EvaluationSuccess.ofDocument? with
  | none => .error Fault.malformedResponse.error
  | some s => .ok ⟨s.value, s.variant, some s.reason, none, s.metadata.getD .empty⟩

def badRequest (body : ByteArray) : EvaluationError :=
  match failure? body with
  | some f => ⟨f.code, f.details⟩
  | none => Fault.badRequest.error

def notFound (flag : String) (body : ByteArray) : EvaluationError :=
  match (failure? body).bind (·.details) with
  | some details => ⟨.flagNotFound, some details⟩
  | none => (Fault.flagNotFound flag).error

/-- What a response says about a flag. -/
def read (s : Service) (flag : String) (response : TransportResponse) :
    Eval (Except EvaluationError (Resolution Json)) := do
  match response.status with
  | 200 => return success response.body
  | 400 => return .error (badRequest response.body)
  | 401 | 403 =>
    Eval.report .warn "OFREP request was not authorized. Check your credentials"
      [("status", .ofInt64 (Int64.ofNat response.status))]
    return .error Fault.unauthorized.error
  | 404 => return .error (notFound flag response.body)
  | 429 =>
    let now ← Eval.now
    let delay := retryDelay response.retryAfter now
    Eval.report .warn "OFREP service is rate limiting requests"
      [("retry_after_secs", .ofInt64 (Int64.ofNat (delay / 1000)))]
    s.suspend (now + delay)
    return .error Fault.rateLimited.error
  | status => return .error (Fault.unexpectedStatus status).error

/-- Asks the service, unless requests are held back. -/
def fetch (s : Service) (flag : String) (c : Context) :
    Eval (Except EvaluationError (Resolution Json)) := do
  match ← s.suspendedUntil with
  | some time => return .error (Fault.suspended ((time - (← Eval.now)) / 1000)).error
  | none =>
    Eval.report .trace "sending OFREP evaluation request" [("flag_key", .text flag)]
    let body := (EvaluationRequest.mk c.flatten).render
    match ← s.transport ⟨s.evaluationUrl flag, s.headers, body⟩ with
    | .error failure =>
      Eval.report .warn ("OFREP request failed: " ++ failure.message) [("flag_key", .text flag)]
      return .error (Fault.requestFailed failure.message).error
    | .ok response => s.read flag response

def toProvider (s : Service) : Provider where
  name := "OFREP Provider"
  status := return if (← s.suspendedUntil).isSome then .error else .ready
  resolve t flag default c := do
    match ← s.fetch flag c with
    | .ok r => return r.typed t default
    | .error e => return .failed default e

end Service

end FeatureFlags.Remote
