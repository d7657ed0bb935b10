import FeatureFlags.Json.Printer
import FeatureFlags.Json.Reading

/-!
# Evaluation errors

An evaluation that goes wrong carries one code of a fixed set and, mostly, a message.
-/
namespace FeatureFlags

inductive ErrorCode where
  | providerNotReady
  | providerFatal
  | flagNotFound
  | parseError
  | typeMismatch
  | targetingKeyMissing
  | invalidContext
  | general
deriving DecidableEq, Repr

namespace ErrorCode

def name : ErrorCode → String
  | .providerNotReady => "PROVIDER_NOT_READY"
  | .providerFatal => "PROVIDER_FATAL"
  | .flagNotFound => "FLAG_NOT_FOUND"
  | .parseError => "PARSE_ERROR"
  | .typeMismatch => "TYPE_MISMATCH"
  | .targetingKeyMissing => "TARGETING_KEY_MISSING"
  | .invalidContext => "INVALID_CONTEXT"
  | .general => "GENERAL"

/-- Every name that is not known means a general error. -/
def ofName (name : String) : ErrorCode :=
  match name with
  | "PROVIDER_NOT_READY" => .providerNotReady
  | "PROVIDER_FATAL" => .providerFatal
  | "FLAG_NOT_FOUND" => .flagNotFound
  | "PARSE_ERROR" => .parseError
  | "TYPE_MISMATCH" => .typeMismatch
  | "TARGETING_KEY_MISSING" => .targetingKeyMissing
  | "INVALID_CONTEXT" => .invalidContext
  | _ => .general

theorem ofName_name (c : ErrorCode) : ofName c.name = c := by cases c <;> rfl

/-- A code is a string, or an object with the code as its only member and null as the value. -/
def ofDocument? : Document → Option ErrorCode
  | .text s => s.map ofName
  | .object [(name, .null)] => name.map ofName
  | _ => none

/-- Errors that are part of normal running and are not reported loudly. -/
def isNormal : ErrorCode → Bool
  | .flagNotFound | .providerNotReady => true
  | _ => false

end ErrorCode

structure EvaluationError where
  code : ErrorCode
  message : Option String
deriving DecidableEq

namespace EvaluationError

/-- The code, followed by the message if there is one. -/
def text (e : EvaluationError) : String :=
  match e.message with
  | some m => e.code.name ++ ": " ++ m
  | none => e.code.name

/-- The message, or the code if there is none. -/
def details (e : EvaluationError) : String := e.message.getD e.code.name

/-- JSON text of an error; a missing message is null. -/
def render (e : EvaluationError) : String :=
  String.ofList <| Json.recordChars
    [("code", some (Json.textChars e.code.name)),
     ("message", some ((e.message.map Json.textChars).getD Json.null.chars))]

end EvaluationError

end FeatureFlags
