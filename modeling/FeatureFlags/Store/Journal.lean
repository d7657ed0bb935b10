import FeatureFlags.Hook.Context
import FeatureFlags.Remote.Wire

/-!
# Journal and log

The journal holds what observers noted, each on a channel. The log holds what the library reports
while it runs.
-/
namespace FeatureFlags

/-- What one member of a combined provider answered. -/
structure MemberAnswer where
  provider : String
  resolution : Resolution Json

inductive Event where
  | hook (name : String) (stage : HookStage) (context : HookContext) (hints : Hints)
  | request (request : Remote.TransportRequest)
  | resolve (provider flag : String) (type : FlagType) (default : Json) (context : Context)
  | start (provider : String) (context : Context)
  | stop (provider : String)
  | mismatch (flag : String) (answers : List MemberAnswer)

inductive Severity where
  | trace
  | debug
  | warn
deriving DecidableEq

structure LogRecord where
  severity : Severity
  message : String
  fields : List (String × Json)

end FeatureFlags
