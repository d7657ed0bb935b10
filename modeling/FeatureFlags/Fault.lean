import FeatureFlags.EvaluationError
import FeatureFlags.Flag
import FeatureFlags.Json.Printer
import FeatureFlags.Text.Quoted

/-!
# Faults

Every reason for which the library itself lets an evaluation fail, with its code and its wording.
-/
namespace FeatureFlags

inductive Fault where
  | flagNotFound (flag : String)
  | providerNotReady
  | providerFatal
  | invalidTargetingKey
  /-- A JSON value is no value of the type. -/
  | notOfType (type : FlagType) (value : Json)
  | flagNotOfType (flag : String) (type : FlagType)
  | variantNotOfType (variant : String) (type : FlagType)
  | undefinedVariant (variant flag : String)
  | undefinedDefaultVariant (flag : String)
  | malformedDefinition (holder : String)
  | malformedResponse
  | rateLimited
  /-- A request is held back for so many seconds. -/
  | suspended (seconds : Nat)
  | requestFailed (cause : String)
  | badRequest
  | unauthorized
  | unexpectedStatus (status : Nat)
  | rejected (reason : String)
  | memberCrashed
  /-- Members of a combined provider failed, with their names. -/
  | membersFailed (errors : List (String × EvaluationError))
  | membersNotStarted (errors : List (String × EvaluationError))

namespace Fault

/-- Errors of several members in one line. -/
def summary (errors : List (String × EvaluationError)) : String :=
  "; ".intercalate (errors.map fun e => e.1 ++ ": " ++ e.2.text)

def code : Fault → ErrorCode
  | flagNotFound _ => .flagNotFound
  | providerNotReady => .providerNotReady
  | providerFatal => .providerFatal
  | invalidTargetingKey => .invalidContext
  | notOfType .. | flagNotOfType .. | variantNotOfType .. => .typeMismatch
  | malformedDefinition _ | malformedResponse => .parseError
  | undefinedVariant .. | undefinedDefaultVariant _ | rateLimited | suspended _ | requestFailed _
  | badRequest | unauthorized | unexpectedStatus _ | rejected _ | memberCrashed | membersFailed _
  | membersNotStarted _ => .general

def message : Fault → String
  | flagNotFound flag => "flag " ++ Text.quote flag ++ " not found"
  | providerNotReady => "provider is not ready"
  | providerFatal => "provider is in an irrecoverable state"
  | invalidTargetingKey => "targetingKey must be a string"
  | notOfType type value => "expected " ++ type.name ++ " value, got " ++ value.render
  | flagNotOfType flag type => "flag " ++ Text.quote flag ++ " is not of type " ++ type.name
  | variantNotOfType variant type =>
    "variant " ++ Text.quote variant ++ " is not of type " ++ type.name
  | undefinedVariant variant flag =>
    "variant " ++ Text.quote variant ++ " of flag " ++ Text.quote flag ++ " is not defined"
  | undefinedDefaultVariant flag =>
    "default variant of flag " ++ Text.quote flag ++ " is not defined"
  | malformedDefinition holder =>
    "variable " ++ holder ++ " does not hold a valid flag definition: " ++ Document.unreadable
  | malformedResponse => "invalid evaluation response: " ++ Document.unreadable
  | rateLimited => "rate limited"
  | suspended seconds => "rate limited, retrying in " ++ toString seconds ++ "s"
  | requestFailed cause => "request failed: " ++ cause
  | badRequest => "bad request"
  | unauthorized => "unauthorized"
  | unexpectedStatus status => "unexpected response status " ++ toString status
  | rejected reason => reason
  | memberCrashed => "provider panicked"
  | membersFailed errors => "providers failed to evaluate flag: " ++ summary errors
  | membersNotStarted errors => "providers failed to initialize: " ++ summary errors

def error (f : Fault) : EvaluationError := ⟨f.code, some f.message⟩

end Fault

end FeatureFlags
