import FeatureFlags.Hook.Lifecycle
import FeatureFlags.Provider.Basic

/-!
# Isolated providers

An isolator runs the hooks of one provider around the evaluations of that provider alone. To the
outside it is a hook as well, which only captures the client's name and hints for the thread that
runs; the isolator takes them when it is asked, and drops them when the evaluation ends. What was
captured for another flag or type is of no use.
-/
namespace FeatureFlags

structure Isolator where
  owner : Nat
  provider : Provider
  hooks : List Hook

namespace Isolator

/-- Isolates a provider with its hooks; more hooks may follow them. -/
def new (owner : Nat) (provider : Provider) (more : List Hook) : Isolator :=
  ⟨owner, provider, provider.hooks ++ more⟩

/-- What is held for the thread that runs. -/
def held? (i : Isolator) : Eval (Option Capture) := do
  let s ← get
  return s.captures i.owner s.thread

def hold (i : Isolator) (capture : Option Capture) : Eval Unit :=
  modify fun s => { s with
    captures := s.captures.set i.owner ((s.captures i.owner).set s.thread capture) }

/-- Removes what is held, and gives it if it is meant for this flag. -/
def take? (i : Isolator) (flag : String) (t : FlagType) : Eval (Option Captured) := do
  let capture ← i.held?
  i.hold none
  return (capture.filter fun h => h.flag = flag ∧ h.type = t).map (·.captured)

/-- Asks the provider with its hooks around the call. -/
def evaluate (i : Isolator) (captured : Option Captured) (t : FlagType) (flag : String)
    (default : t.Value) (c : Context) : Eval (Resolution t.Value) :=
  let captured := captured.getD .none
  let hc : HookContext := {
    flag
    type := t
    default := t.toJson default
    context := c
    client := captured.client
    provider := i.provider.name }
  Lifecycle.evaluate i.hooks hc captured.hints default (i.provider.resolve t flag default)

/-- The hook that captures and drops. -/
def hook (i : Isolator) : Hook where
  before hc hints := do
    i.hold (some ⟨hc.flag, hc.type, ⟨hc.client, hints⟩⟩)
    return .ok none
  atEnd _ _ _ := i.hold none

/-- The isolated provider; the isolator is its only visible hook. -/
def toProvider (i : Isolator) : Provider where
  name := i.provider.name
  status := i.provider.status
  start := i.provider.start
  stop := i.provider.stop
  hooks := [i.hook]
  resolve t flag default c := do
    let captured ← i.take? flag t
    i.evaluate captured t flag default c

end Isolator

end FeatureFlags
