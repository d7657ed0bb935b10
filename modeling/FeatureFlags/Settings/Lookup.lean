import FeatureFlags.Settings.SetupError
import FeatureFlags.Text.Pieces

/-!
# Configuration variables

Settings are read through a lookup of texts by name. White space around a value does not count, and
a value that is blank is as good as unset.
-/
namespace FeatureFlags

abbrev Lookup := String → Option String

namespace Lookup

/-- The trimmed value of a name, unless it is blank. -/
def value? (lookup : Lookup) (name : String) : Option (List Char) :=
  ((lookup name).map fun s => Text.trim s.toList).filter (· ≠ [])

def text? (lookup : Lookup) (name : String) : Option String :=
  (value? lookup name).map String.ofList

/-- An unsigned integer of 64 bits. -/
def number? (lookup : Lookup) (name : String) : Except SetupError (Option Nat) :=
  match value? lookup name with
  | none => .ok none
  | some raw =>
    match Text.unsigned? raw with
    | .ok n => .ok (some n)
    | .error fault => .error (.invalidNumber name (String.ofList raw) fault)

def bool? (lookup : Lookup) (name : String) : Except SetupError (Option Bool) :=
  match value? lookup name with
  | none => .ok none
  | some raw =>
    match String.ofList (raw.map Char.toLower) with
    | "true" | "1" | "yes" | "on" => .ok (some true)
    | "false" | "0" | "no" | "off" => .ok (some false)
    | _ => .error (.invalidBoolean name (String.ofList raw))

/-- One piece of a list of pairs. -/
def pair? (name : String) (piece : List Char) : Except SetupError (String × String) :=
  match Text.splitOnce '=' piece with
  | some (key, value) =>
    if Text.isAllBlank key then .error (.invalidPair name (String.ofList piece))
    else .ok (String.ofList (Text.trim key), String.ofList (Text.trim value))
  | none => .error (.invalidPair name (String.ofList piece))

/-- Pairs of the form `name=value`, separated by commas; blank pieces do not count. -/
def pairs? (lookup : Lookup) (name : String) : Except SetupError (List (String × String)) :=
  match value? lookup name with
  | none => .ok []
  | some raw => ((Text.splitAt ',' raw).filter fun p => !Text.isAllBlank p).mapM (pair? name)

end Lookup

end FeatureFlags
