import FeatureFlags.Proofs.Calls
import FeatureFlags.Remote.Provider

/-!
# Exchanges with a service

One evaluation by a remote provider, step by step: either requests are held back, and nothing
happens, or one request is sent and its answer is read. Main statements: `on_fetch_held` and
`on_fetch_sent` for the two cases, and `on_receive` for what reading an answer leaves behind.
-/
namespace FeatureFlags

theorem Slots.set_self {α : Type} (s : Slots α) (owner : Nat) : s.set owner (s owner) = s := by
  funext i
  rw [set_apply]
  split
  next h => rw [h]
  next => rfl

namespace Remote.Service

variable (service : Service)

/-- The time until which a store holds requests back. -/
def heldUntil? (s : Store) : Option Nat := (s.suspensions service.owner).filter (s.now < ·)

/-- The store without a suspension of the service. -/
def released (s : Store) : Store := { s with suspensions := s.suspensions.set service.owner none }

/-- The request for a flag in a context. -/
def request (flag : String) (c : Context) : TransportRequest :=
  ⟨service.evaluationUrl flag, service.headers, (EvaluationRequest.mk c.flatten).render⟩

/-- The store in which a request is handed to the transport. -/
def sending (flag : String) (s : Store) : Store :=
  { service.released s with
    log := s.log ++ [⟨.trace, "sending OFREP evaluation request", [("flag_key", .text flag)]⟩] }

/-- What becomes of the answer of the transport. -/
def receive (flag : String) :
    Except TransportFailure TransportResponse → Eval (Except EvaluationError (Resolution Json))
  | .error failure => do
    Eval.report .warn ("OFREP request failed: " ++ failure.message) [("flag_key", .text flag)]
    return .error (Fault.requestFailed failure.message).error
  | .ok response => service.read flag response

variable {service} {s : Store}

theorem heldUntil?_eq_some_iff {time : Nat} :
    service.heldUntil? s = some time ↔
      s.suspensions service.owner = some time ∧ s.now < time := by
  simp [heldUntil?, Option.filter_eq_some_iff]

theorem heldUntil?_eq_none_iff :
    service.heldUntil? s = none ↔
      ∀ time, s.suspensions service.owner = some time → time ≤ s.now := by
  simp [heldUntil?, Option.filter_eq_none_iff]

theorem on_suspendedUntil_held {time : Nat} (h : service.heldUntil? s = some time) :
    service.suspendedUntil.on s = (.ok (some time), s) := by
  have hget : (get : Eval Store).on s = (.ok s, s) := rfl
  rw [heldUntil?] at h
  rw [suspendedUntil, Eval.on_bind_ok hget]
  simp only [h]
  rfl

theorem on_suspendedUntil_free (h : service.heldUntil? s = none) :
    service.suspendedUntil.on s = (.ok none, service.released s) := by
  have hget : (get : Eval Store).on s = (.ok s, s) := rfl
  rw [heldUntil?] at h
  rw [suspendedUntil, Eval.on_bind_ok hget]
  simp only [h]
  rfl

/-- While requests are held back, the store stays as it is. -/
theorem on_fetch_held {time : Nat} (h : service.heldUntil? s = some time) (flag : String)
    (c : Context) : (service.fetch flag c).on s =
      (.ok (.error (Fault.suspended ((time - s.now) / 1000)).error), s) := by
  rw [fetch, Eval.on_bind_ok (on_suspendedUntil_held h)]
  rfl

/-- Otherwise one request is handed to the transport, and its answer is read. -/
theorem on_fetch_sent (h : service.heldUntil? s = none) (flag : String) (c : Context) :
    (service.fetch flag c).on s =
      (service.transport (service.request flag c) >>= service.receive flag).on
        (service.sending flag s) := by
  have hreport : (Eval.report .trace "sending OFREP evaluation request"
      [("flag_key", .text flag)]).on (service.released s) = (.ok (), service.sending flag s) := rfl
  rw [fetch, Eval.on_bind_ok (on_suspendedUntil_free h)]
  dsimp only
  rw [Eval.on_bind_ok hreport]
  congr 2

/-- The time until which an answer that is there now holds requests back. -/
def suspension? (now : Nat) : Except TransportFailure TransportResponse → Option Nat
  | .error _ => none
  | .ok response =>
    if response.status = 429 then some (now + retryDelay response.retryAfter now) else none

/-- Reading an answer gives a result, and leaves the suspension that the answer asks for. -/
theorem on_receive (flag : String) (answer : Except TransportFailure TransportResponse)
    (s : Store) : ∃ r records, (service.receive flag answer).on s = (.ok r, { s with
      suspensions := s.suspensions.set service.owner
        ((suspension? s.now answer).or (s.suspensions service.owner))
      log := s.log ++ records }) := by
  cases answer with
  | error failure =>
    rw [suspension?, Option.none_or, Slots.set_self]
    exact ⟨_, _, rfl⟩
  | ok response =>
    by_cases hstatus : response.status = 429
    · refine ⟨.error Fault.rateLimited.error, [⟨.warn, "OFREP service is rate limiting requests",
        [("retry_after_secs",
          .ofInt64 (Int64.ofNat (retryDelay response.retryAfter s.now / 1000)))]⟩], ?_⟩
      simp only [receive, read, suspension?, hstatus, if_true, Option.some_or]
      rfl
    · rw [suspension?, if_neg hstatus, Option.none_or, Slots.set_self, receive, read]
      split
      case h_6 h => exact absurd h hstatus
      case h_3 | h_4 => exact ⟨_, _, rfl⟩
      all_goals exact ⟨_, [], by rw [List.append_nil]; rfl⟩

end Remote.Service

end FeatureFlags
