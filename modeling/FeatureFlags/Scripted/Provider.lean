import FeatureFlags.Provider.Basic

/-!
# Scripted providers

A provider with one fixed answer, and a wrapper that notes what is asked of a provider and changes
what it does on request.
-/
namespace FeatureFlags.Scripted

/-- Answers every evaluation alike. -/
def fixed (name : String) (answer : Resolution Json) : Provider where
  name := name
  resolve t _ default _ := return answer.typed t default

structure Wrapping where
  name : Option String
  hooks : List Hook
  /-- Returned instead of starting the provider. -/
  failStart : Option EvaluationError
  /-- The status after a start or a stop. -/
  startStatus : Option Status
  stopStatus : Option Status
  crashes : Bool
  /-- Where calls are noted. -/
  channel : Option String

namespace Wrapping

def note (w : Wrapping) (event : Event) : Eval Unit :=
  match w.channel with
  | some channel => Eval.note channel event
  | none => return ()

def setStatus (owner : Nat) (status : Option Status) : Eval Unit :=
  match status with
  | some _ => modify fun s => { s with statuses := s.statuses.set owner status }
  | none => return ()

def nameOf (w : Wrapping) (inner : Provider) : String := w.name.getD inner.name

/-- The wrapped provider; a status that was set hides that of the provider inside. -/
def wrap (w : Wrapping) (owner : Nat) (inner : Provider) : Provider where
  name := w.nameOf inner
  status := do
    match (← get).statuses owner with
    | some status => return status
    | none => inner.status
  start c := do
    w.note (.start (w.nameOf inner) c)
    match w.failStart with
    | some e => return .error e
    | none =>
      setStatus owner w.startStatus
      inner.start c
  stop := do
    w.note (.stop (w.nameOf inner))
    setStatus owner w.stopStatus
    inner.stop
  hooks := inner.hooks ++ w.hooks
  resolve t flag default c := do
    w.note (.resolve (w.nameOf inner) flag t (t.toJson default) c)
    if w.crashes then Eval.crash
    inner.resolve t flag default c

end Wrapping

end FeatureFlags.Scripted
