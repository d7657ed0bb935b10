import FeatureFlags.Remote.Provider

/-!
# Scripted transports

Transports that note every request and answer from a list, or let another transport answer.
-/
namespace FeatureFlags.Scripted

open Remote

/-- Notes the requests that a transport is given. -/
def noting (channel : String) (transport : Transport) : Transport := fun request => do
  Eval.note channel (.request request)
  transport request

/-- Answers from a list, the last answer again and again. -/
def answering (owner : Nat) (last : Except TransportFailure TransportResponse)
    (answers : List (Except TransportFailure TransportResponse)) : Transport := fun _ => do
  let position := (← get).positions owner
  modify fun s => { s with positions := s.positions.set owner (position + 1) }
  return answers.getD position last

end FeatureFlags.Scripted
