import FeatureFlags.Hook.Lifecycle
import FeatureFlags.Provider.Basic

/-!
# Clients

A client evaluates flags against a provider, with hooks around every evaluation. The context of an
evaluation is that of the call, completed by that of the client. A provider that is not ready, or
lost, is not asked.
-/
namespace FeatureFlags

structure Client where
  provider : Provider
  name : String := ""
  context : Context := .empty
  hooks : List Hook := []

/-- What a caller passes for one evaluation. -/
structure EvaluationOptions where
  hooks : List Hook := []
  hints : Hints := .empty

namespace Client

def start (c : Client) : Eval (Except EvaluationError Unit) := do
  Eval.report .debug "initializing provider" [("provider", .text c.provider.name)]
  match ← c.provider.start c.context with
  | .ok () => return .ok ()
  | .error e =>
    Eval.report .warn ("provider failed to initialize: " ++ e.text)
      [("provider", .text c.provider.name)]
    return .error e

def stop (c : Client) : Eval Unit := c.provider.stop

/-- Asks the provider, if its status allows that. -/
def resolve (c : Client) (t : FlagType) (flag : String) (default : t.Value) (context : Context) :
    Eval (Resolution t.Value) := do
  match ← c.provider.status with
  | .notReady => return .failed default Fault.providerNotReady.error
  | .fatal => return .failed default Fault.providerFatal.error
  | .ready | .stale | .error => c.provider.resolve t flag default context

def reportOutcome {t : FlagType} (flag : String) (r : Resolution t.Value) : Eval Unit :=
  let success := Eval.report .trace "evaluated a flag"
    [("flag_key", .text flag), ("value", t.toJson r.value)]
  match r.error with
  | none => success
  | some e =>
    if e.code.isNormal then success
    else Eval.report .warn ("error occurred while evaluating a flag: " ++ e.text)
      [("flag_key", .text flag), ("error_code", .text e.code.name)]

/-- The context of a call. -/
def evaluationContext (c : Client) : Option Context → Context
  | some invocation => Context.merge [invocation, c.context]
  | none => c.context

def details (c : Client) (t : FlagType) (flag : String) (default : t.Value)
    (context : Option Context) (options : EvaluationOptions) : Eval (Evaluation t.Value) := do
  let hooks := c.hooks ++ options.hooks ++ c.provider.hooks
  let hc : HookContext := {
    flag
    type := t
    default := t.toJson default
    context := c.evaluationContext context
    client := c.name
    provider := c.provider.name }
  let resolution ← Lifecycle.evaluate hooks hc options.hints default (c.resolve t flag default)
  reportOutcome flag resolution
  return resolution.of flag

def value (c : Client) (t : FlagType) (flag : String) (default : t.Value)
    (context : Option Context) : Eval t.Value :=
  return (← c.details t flag default context {}).value

end Client

end FeatureFlags
