import FeatureFlags.Store.Basic

/-!
# Hooks and providers

Hooks are callbacks around an evaluation: `before` may add to the evaluation context or abort,
`after` may reject a result, `onError` is told of failures, and `atEnd` runs whatever happened. A
provider answers flags from one backend. It never fails: where something goes wrong it serves the
caller's default with an error.
-/
namespace FeatureFlags

structure Hook where
  before : HookContext → Hints → Eval (Except EvaluationError (Option Context)) :=
    fun _ _ => return .ok none
  after : HookContext → Evaluation Json → Hints → Eval (Except EvaluationError Unit) :=
    fun _ _ _ => return .ok ()
  onError : HookContext → EvaluationError → Hints → Eval Unit := fun _ _ _ => return ()
  atEnd : HookContext → Evaluation Json → Hints → Eval Unit := fun _ _ _ => return ()

/-- The hook that does nothing at any stage. -/
def Hook.idle : Hook := {}

structure Provider where
  name : String
  status : Eval Status := return .ready
  /-- Prepares the provider for evaluations. -/
  start : Context → Eval (Except EvaluationError Unit) := fun _ => return .ok ()
  stop : Eval Unit := return ()
  /-- Hooks that the provider wants to run around its evaluations. -/
  hooks : List Hook := []
  resolve : (t : FlagType) → String → t.Value → Context → Eval (Resolution t.Value)

end FeatureFlags
