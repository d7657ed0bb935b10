import FeatureFlags.Provider.Basic

/-!
# Flags from memory

A provider over a table of flags that can change while it runs.
-/
namespace FeatureFlags

namespace MemoryFlag

/-- The variant for a context, and why it is that one. -/
def choose (f : MemoryFlag) (c : Context) : String × Reason :=
  match f.select.bind (· c) with
  | some variant => (variant, .targetingMatch)
  | none => (f.defaultVariant, .static)

/-- The answer of a flag. A disabled flag serves the default without an error. -/
def answer (f : MemoryFlag) (flag : String) (t : FlagType) (default : t.Value) (c : Context) :
    Resolution t.Value :=
  if f.enabled then
    let (variant, reason) := f.choose c
    match f.variants.get? variant with
    | none => .failed default (Fault.undefinedVariant variant flag).error
    | some j =>
      match t.ofJson? j with
      | none => .failed default (Fault.flagNotOfType flag t).error
      | some value => ⟨value, some variant, some reason, none, f.metadata⟩
  else ⟨default, none, some .disabled, none, f.metadata⟩

/-- The answer of a table of flags. -/
def answerFrom (flags : Table MemoryFlag) (flag : String) (t : FlagType) (default : t.Value)
    (c : Context) : Resolution t.Value :=
  match flags.get? flag with
  | none => .failed default (Fault.flagNotFound flag).error
  | some f => f.answer flag t default c

end MemoryFlag

namespace Memory

def replaceFlags (owner : Nat) (flags : Table MemoryFlag) : Eval Unit :=
  modify fun s => { s with flags := s.flags.set owner flags }

def setFlag (owner : Nat) (name : String) (f : MemoryFlag) : Eval Unit :=
  modify fun s => { s with flags := s.flags.set owner ((s.flags owner).insert name f) }

def provider (owner : Nat) : Provider where
  name := "InMemoryProvider"
  resolve t flag default c := return MemoryFlag.answerFrom ((← get).flags owner) flag t default c

end Memory

end FeatureFlags
