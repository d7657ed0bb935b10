import FeatureFlags.Provider.Basic

/-!
# Recording hooks

A hook that notes every stage it runs at and answers as it was told to.
-/
namespace FeatureFlags.Scripted

structure HookScript where
  name : String
  channel : String
  /-- The context that `before` returns. -/
  context : Option Context
  failBefore : Option EvaluationError
  failAfter : Option EvaluationError

namespace HookScript

def note (s : HookScript) (stage : HookStage) (hc : HookContext) (hints : Hints) : Eval Unit :=
  Eval.note s.channel (.hook s.name stage hc hints)

def hook (s : HookScript) : Hook where
  before hc hints := do
    s.note .before hc hints
    match s.failBefore with
    | some e => return .error e
    | none => return .ok s.context
  after hc details hints := do
    s.note (.after details) hc hints
    match s.failAfter with
    | some e => return .error e
    | none => return .ok ()
  onError hc e hints := s.note (.error e) hc hints
  atEnd hc details hints := s.note (.finally details) hc hints

end HookScript

end FeatureFlags.Scripted
