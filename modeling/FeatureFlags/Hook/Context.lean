import FeatureFlags.Context
import FeatureFlags.Resolution

/-!
# What hooks are told

A hook knows for which evaluation it runs, and may be handed hints by the caller.
-/
namespace FeatureFlags

/-- Free data that a caller passes to its hooks. -/
abbrev Hints := Table Json

structure HookContext where
  flag : String
  type : FlagType
  /-- The default value in JSON. -/
  default : Json
  context : Context
  /-- Names of the client and of the provider that take part. -/
  client : String
  provider : String

/-- A stage of the lifecycle, with what a hook is handed at it beside its context. -/
inductive HookStage where
  | before
  | after (details : Evaluation Json)
  | error (error : EvaluationError)
  | finally (details : Evaluation Json)

/-- What the client of an evaluation passes on to the hooks of isolated providers. -/
structure Captured where
  client : String
  hints : Hints

def Captured.none : Captured := ⟨"", .empty⟩

end FeatureFlags
