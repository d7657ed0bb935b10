import FeatureFlags.Text.Quoted
import FeatureFlags.Text.Unsigned

/-!
# Setup errors

Why settings cannot be loaded, or a provider, hook or tool cannot be made from them.
-/
namespace FeatureFlags

inductive SetupError where
  | invalidNumber (name value : String) (fault : Text.UnsignedFault)
  | invalidBoolean (name value : String)
  | invalidPair (name piece : String)
  | missing (name : String)
  | noMembers
  | duplicateMember (name : String)
  | unknownFallback (name : String)
  /-- A URL to which no path can be added. -/
  | notABase (url : String)
  | malformedBaseUrl
  | malformedPattern
deriving DecidableEq

namespace SetupError

inductive Kind where
  | configuration
  | baseUrl
  | pattern
deriving DecidableEq

def kind : SetupError → Kind
  | malformedBaseUrl => .baseUrl
  | malformedPattern => .pattern
  | _ => .configuration

def Kind.lead : Kind → String
  | configuration => "invalid configuration: "
  | baseUrl => "invalid base_url configuration"
  | pattern => "invalid validation pattern"

/-- What is wrong, where the kind does not say it all. -/
def detail : SetupError → String
  | invalidNumber name value fault =>
    name ++ "=" ++ Text.quote value ++ " is invalid: " ++ fault.message
  | invalidBoolean name value => name ++ "=" ++ Text.quote value ++ " is not a boolean"
  | invalidPair name piece =>
    name ++ " entry " ++ Text.quote piece ++ " is not of the form name=value"
  | missing name => name ++ " is required"
  | noMembers => "multi-provider requires at least one provider"
  | duplicateMember name => "provider name " ++ Text.quote name ++ " is used more than once"
  | unknownFallback name =>
    "comparison fallback " ++ Text.quote name ++ " is not a member provider"
  | notABase url => url ++ " cannot be used as a base URL"
  | malformedBaseUrl | malformedPattern => ""

def message (e : SetupError) : String := e.kind.lead ++ e.detail

end SetupError

end FeatureFlags
