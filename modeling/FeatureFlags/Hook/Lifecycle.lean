import FeatureFlags.Provider.Basic

/-!
# The lifecycle of an evaluation

Hooks run before an evaluation in their order and after it in reverse. Contexts that `before`
returns are merged into the evaluation context, where what is there already wins. An error at any
point is told to every hook, and every hook learns the final result.
-/
namespace FeatureFlags.Lifecycle

/-- Runs `before` up to the first failure, with the context that results. -/
def runBefore (hints : Hints) :
    List Hook → HookContext → Eval (HookContext × Except EvaluationError Unit)
  | [], hc => return (hc, .ok ())
  | hook :: rest, hc => do
    match ← hook.before hc hints with
    | .error e => return (hc, .error e)
    | .ok none => runBefore hints rest hc
    | .ok (some more) =>
      runBefore hints rest { hc with context := Context.merge [hc.context, more] }

/-- Runs `after` up to the first failure, over hooks in the order in which they are given. -/
def runAfter (hc : HookContext) (details : Evaluation Json) (hints : Hints) :
    List Hook → Eval (Except EvaluationError Unit)
  | [] => return .ok ()
  | hook :: rest => do
    match ← hook.after hc details hints with
    | .error e => return .error e
    | .ok () => runAfter hc details hints rest

def runError (hooks : List Hook) (hc : HookContext) (e : EvaluationError) (hints : Hints) :
    Eval Unit :=
  hooks.reverse.forM fun hook => hook.onError hc e hints

def runAtEnd (hooks : List Hook) (hc : HookContext) (details : Evaluation Json) (hints : Hints) :
    Eval Unit :=
  hooks.reverse.forM fun hook => hook.atEnd hc details hints

/-- The result of an evaluation whose `before` hooks have run. -/
def settle {t : FlagType} (hooks : List Hook) (hc : HookContext) (hints : Hints) (default : t.Value)
    (resolve : Context → Eval (Resolution t.Value)) :
    Except EvaluationError Unit → Eval (Resolution t.Value)
  | .error e => do
    Eval.report .warn ("before hook failed: " ++ e.text) [("flag_key", .text hc.flag)]
    runError hooks hc e hints
    return .failed default e
  | .ok () => do
    let resolution ← resolve hc.context
    match resolution.error with
    | some e =>
      runError hooks hc e hints
      return resolution
    | none =>
      match ← runAfter hc (resolution.toJson.of hc.flag) hints hooks.reverse with
      | .ok () => return resolution
      | .error e =>
        Eval.report .warn ("after hook rejected evaluation: " ++ e.text)
          [("flag_key", .text hc.flag)]
        runError hooks hc e hints
        return .failed default e

/-- One evaluation with its hooks around it. -/
def evaluate {t : FlagType} (hooks : List Hook) (hc : HookContext) (hints : Hints)
    (default : t.Value) (resolve : Context → Eval (Resolution t.Value)) :
    Eval (Resolution t.Value) := do
  let (hc, started) ← runBefore hints hooks hc
  let resolution ← settle hooks hc hints default resolve started
  runAtEnd hooks hc (resolution.toJson.of hc.flag) hints
  return resolution

end FeatureFlags.Lifecycle
