import FeatureFlags.Fault

/-!
# Resolutions

What a provider answers for a flag, and the same together with the flag's key, which is what clients
return and hooks observe. An answer with an error holds the caller's default as its value.
-/
namespace FeatureFlags

/-- Why a flag has its value. Names outside the known ones are carried as they are. -/
inductive Reason where
  | static
  | default
  | targetingMatch
  | split
  | cached
  | disabled
  | unknown
  | stale
  | error
  | other (name : String)
deriving DecidableEq

namespace Reason

def name : Reason → String
  | static => "STATIC"
  | default => "DEFAULT"
  | targetingMatch => "TARGETING_MATCH"
  | split => "SPLIT"
  | cached => "CACHED"
  | disabled => "DISABLED"
  | unknown => "UNKNOWN"
  | stale => "STALE"
  | error => "ERROR"
  | other name => name

def ofName (name : String) : Reason :=
  match name with
  | "STATIC" => static
  | "DEFAULT" => default
  | "TARGETING_MATCH" => targetingMatch
  | "SPLIT" => split
  | "CACHED" => cached
  | "DISABLED" => disabled
  | "UNKNOWN" => unknown
  | "STALE" => stale
  | "ERROR" => error
  | _ => other name

end Reason

/-- Free data that a provider attaches to an answer. -/
abbrev Metadata := Table Json

structure Resolution (α : Type) where
  value : α
  variant : Option String
  reason : Option Reason
  error : Option EvaluationError
  metadata : Metadata

namespace Resolution

variable {α β : Type}

def ofValue (value : α) : Resolution α := ⟨value, none, none, none, .empty⟩

/-- The answer that serves a default because of an error. -/
def failed (default : α) (error : EvaluationError) : Resolution α :=
  ⟨default, none, some .error, some error, .empty⟩

def isError (r : Resolution α) : Bool := r.error.isSome

def errorCode? (r : Resolution α) : Option ErrorCode := r.error.map (·.code)

def withMetadata (r : Resolution α) (name : String) (value : Json) : Resolution α :=
  { r with metadata := r.metadata.insert name value }

def map (f : α → β) (r : Resolution α) : Resolution β :=
  ⟨f r.value, r.variant, r.reason, r.error, r.metadata⟩

def toJson {t : FlagType} (r : Resolution t.Value) : Resolution Json := r.map t.toJson

/-- An answer in JSON as an answer of a type. A value of another type is a mismatch, for which the
default is served; an error stays as it is, with the metadata beside it. -/
def typed (t : FlagType) (default : t.Value) (r : Resolution Json) : Resolution t.Value :=
  match r.error with
  | some error => { failed default error with metadata := r.metadata }
  | none =>
    match t.ofJson? r.value with
    | some value => ⟨value, r.variant, r.reason, none, r.metadata⟩
    | none => failed default (Fault.notOfType t r.value).error

end Resolution

/-- An answer with the key of its flag. -/
structure Evaluation (α : Type) extends Resolution α where
  flag : String

def Resolution.of {α : Type} (r : Resolution α) (flag : String) : Evaluation α := ⟨r, flag⟩

end FeatureFlags
