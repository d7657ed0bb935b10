/-!
# Provider status

How ready a provider is, from healthy to lost. Of several statuses the worst is their maximum.
-/
namespace FeatureFlags

inductive Status where
  | ready
  /-- Serving, but values may be out of date. -/
  | stale
  | notReady
  /-- In an error that it can recover from. -/
  | error
  | fatal
deriving DecidableEq, Repr

namespace Status

def name : Status → String
  | ready => "READY"
  | stale => "STALE"
  | notReady => "NOT_READY"
  | error => "ERROR"
  | fatal => "FATAL"

def severity : Status → Nat
  | ready => 0
  | stale => 1
  | notReady => 2
  | error => 3
  | fatal => 4

def worse (a b : Status) : Status := if a.severity < b.severity then b else a

def ofName? : String → Option Status
  | "READY" => some ready
  | "STALE" => some stale
  | "NOT_READY" => some notReady
  | "ERROR" => some error
  | "FATAL" => some fatal
  | _ => none

/-- From the healthiest to the worst. -/
def sorted (statuses : List Status) : List Status :=
  statuses.mergeSort fun a b => a.severity ≤ b.severity

/-- The worst of some statuses, none if there are none. -/
def worst? : List Status → Option Status
  | [] => none
  | s :: rest => some (rest.foldl worse s)

end Status

end FeatureFlags
