import FeatureFlags.Provider.Basic
import FeatureFlags.Regex.Machine
import FeatureFlags.Regex.Reader
import FeatureFlags.Settings.SetupError

/-!
# Validators

A validator decides whether an evaluated value is acceptable, or says why not. As a hook it rejects
evaluations, for which the default is then served.
-/
namespace FeatureFlags

abbrev Validator := Evaluation Json → Except String Unit

namespace Validator

/-- Strings in which a pattern occurs, told by the machine of the pattern; no other value is
accepted. -/
def matching (pattern : String) (m : Regex.Machine) : Validator := fun details =>
  match details.value with
  | .text s =>
    if m.occursIn s then .ok ()
    else .error ("value " ++ Text.quote s ++ " does not match pattern " ++ Text.quote pattern)
  | j => .error ("expected a string value to validate, got " ++ j.render)

def ofPattern? (pattern : String) : Except SetupError Validator :=
  match Regex.ofPattern? pattern with
  | some r => .ok (matching pattern r.machine)
  | none => .error .malformedPattern

def hexPattern : String := "^[0-9a-fA-F]+$"

/-- The expression that the pattern of hexadecimal texts stands for. -/
def hexRegex : Regex :=
  let digits : CharSet := .ofRanges [(0x30, 0x39), (0x41, 0x46), (0x61, 0x66)]
  .seq (.look .textStart) (.seq (.times (.set digits) 1 none true) (.look .textEnd))

theorem ofPattern?_hexPattern : Regex.ofPattern? hexPattern = some hexRegex := by decide +kernel

/-- Texts of one hexadecimal digit or more. -/
def hex : Validator := matching hexPattern hexRegex.machine

/-- The values of a list and no others. -/
def oneOf (values : List Json) : Validator := fun details =>
  if values.any details.value.agrees then .ok ()
  else .error ("value of " ++ details.flag ++ " is not accepted")

/-- The hook that rejects what a validator does not accept. -/
def hook (v : Validator) : Hook where
  after _ details _ := do
    match v details with
    | .ok () => return .ok ()
    | .error reason =>
      Eval.report .debug ("validator rejected flag value: " ++ reason)
        [("flag_key", .text details.flag), ("value", details.value)]
      return .error (Fault.rejected reason).error

end Validator

end FeatureFlags
