import FeatureFlags.Isolation.Isolator
import FeatureFlags.Multi.Names
import FeatureFlags.Multi.Strategy

/-!
# Combined providers

Several providers as one, under a strategy. Every member is isolated, so that its hooks see and
change the context of its own evaluations only.
-/
namespace FeatureFlags

namespace Multi

structure Entry where
  provider : Provider
  name : Option String

structure Member where
  name : String
  isolator : Isolator

end Multi

structure Multi where
  members : List Multi.Member
  strategy : Multi.Strategy

namespace Multi

/-- Isolates the entries, each with a number of its own. -/
def isolate : List (Entry × String) → Eval (List Member)
  | [] => return []
  | (entry, name) :: rest => do
    let owner ← Eval.newOwner
    let members ← isolate rest
    return ⟨name, .new owner entry.provider []⟩ :: members

/-- Whether the fallback of a comparison, if it has one, is among some names. -/
def unknownFallback? (strategy : Strategy) (names : List String) : Option String :=
  match strategy with
  | .comparison settings => settings.fallback.filter fun name => !names.contains name
  | _ => none

/-- The names that entries get under a strategy, unless they cannot be combined. -/
def setUp (entries : List Entry) (strategy : Strategy) : Except SetupError (List String) :=
  if entries.isEmpty then .error .noMembers
  else do
    let names ← uniqueNames (entries.map fun e => (e.name, e.provider.name))
    match unknownFallback? strategy names with
    | some name => .error (.unknownFallback name)
    | none => .ok names

def new (entries : List Entry) (strategy : Strategy) : Eval (Except SetupError Multi) := do
  match setUp entries strategy with
  | .error e => return .error e
  | .ok names => return .ok ⟨← isolate (entries.zip names), strategy⟩

def names (m : Multi) : List String := m.members.map (·.name)

/-- Takes what every member holds, also of those that will not be asked. -/
def candidates (t : FlagType) (flag : String) (default : t.Value) (c : Context) :
    List Member → Eval (List (Candidate t))
  | [] => return []
  | member :: rest => do
    let captured ← member.isolator.take? flag t
    let others ← candidates t flag default c rest
    return ⟨member.name, member.isolator.evaluate captured t flag default c⟩ :: others

def evaluate (m : Multi) (t : FlagType) (flag : String) (default : t.Value) (c : Context) :
    Eval (Resolution t.Value) := do
  m.strategy.run flag default (← candidates t flag default c m.members)

def status (m : Multi) : Eval Status :=
  return (Status.worst? (← m.members.mapM (·.isolator.provider.status))).getD .ready

/-- Starts all members, whatever happens to some, and gives the errors by name. -/
def startAll (c : Context) : List Member → Eval (List (String × EvaluationError))
  | [] => return []
  | member :: rest => do
    Eval.report .debug "initializing provider" [("provider", .text member.name)]
    let outcome ← member.isolator.provider.start c
    let errors ← startAll c rest
    match outcome with
    | .ok () => return errors
    | .error e => return (member.name, e) :: errors

def start (m : Multi) (c : Context) : Eval (Except EvaluationError Unit) := do
  match ← startAll c m.members with
  | [] => return .ok ()
  | errors => return .error (Fault.membersNotStarted errors).error

def toProvider (m : Multi) : Provider where
  name := "MultiProvider"
  status := m.status
  start := m.start
  stop := m.members.forM (·.isolator.provider.stop)
  hooks := m.members.map (·.isolator.hook)
  resolve := m.evaluate

end Multi

end FeatureFlags
