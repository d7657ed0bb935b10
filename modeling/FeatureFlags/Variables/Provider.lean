import FeatureFlags.Provider.Basic
import FeatureFlags.Settings.Lookup
import FeatureFlags.Variables.Definition

/-!
# Flags from variables

A provider that looks a flag up as a variable at every evaluation. The name of the variable is the
flag's key, perhaps mapped, behind a lead.
-/
namespace FeatureFlags

structure VariableNaming where
  lead : Option String := none
  map : String → String := id

namespace VariableNaming

def ofLookup (lookup : Lookup) : VariableNaming := { lead := lookup.text? "ENV_PROVIDER_PREFIX" }

def variableOf (n : VariableNaming) (flag : String) : String := n.lead.getD "" ++ n.map flag

/-- Capital letters, and underscores for hyphens. -/
def upperSnake (flag : String) : String :=
  String.ofList (flag.toList.map fun c => if c = '-' then '_' else c.toUpper)

/-- What stands before the first full stop. -/
def firstSegment (flag : String) : String := String.ofList (flag.toList.takeWhile (· ≠ '.'))

end VariableNaming

/-- Where variables are kept: among those of the process, which cannot have every name, or apart. -/
structure VariableSource where
  owner : Nat
  process : Bool

namespace VariableSource

/-- Whether a process can have a variable of a name. -/
def isProcessName (name : String) : Bool :=
  !name.isEmpty && !name.toList.any fun c => c = '=' || c.toNat = 0

def lookup (v : VariableSource) (s : Store) : Lookup := fun name =>
  if v.process && !isProcessName name then none else (s.environments v.owner).get? name

/-- Changes the variables of a source. -/
def update (v : VariableSource) (f : Table String → Table String) : Eval Unit :=
  modify fun s => { s with environments := s.environments.set v.owner (f (s.environments v.owner)) }

def set (v : VariableSource) (name value : String) : Eval Unit := v.update (·.insert name value)

def unset (v : VariableSource) (name : String) : Eval Unit := v.update (·.erase name)

/-- The answer for a flag whose variable has been looked up. -/
def answer (naming : VariableNaming) (lookup : Lookup) (flag : String) (t : FlagType)
    (default : t.Value) (c : Context) : Resolution t.Value :=
  match lookup (naming.variableOf flag) with
  | none => .failed default (Fault.flagNotFound flag).error
  | some raw =>
    match FlagDefinition.ofText? raw with
    | none => .failed default (Fault.malformedDefinition (naming.variableOf flag)).error
    | some f => f.answer flag t default c

/-- Whether a flag has a variable that holds no definition. -/
def isMalformed (naming : VariableNaming) (lookup : Lookup) (flag : String) : Bool :=
  (lookup (naming.variableOf flag)).any fun raw => (FlagDefinition.ofText? raw).isNone

def provider (v : VariableSource) (naming : VariableNaming) : Provider where
  name := "Environment Variable Provider"
  resolve t flag default c := do
    let lookup := v.lookup (← get)
    if isMalformed naming lookup flag then
      Eval.report .debug ("failed to parse flag definition: " ++ Document.unreadable)
        [("flag_key", .text flag), ("variable", .text (naming.variableOf flag))]
    return answer naming lookup flag t default c

end VariableSource

end FeatureFlags
