import FeatureFlags.Settings.Lookup

/-!
# Cache settings

How long results stay valid and how many are kept. Times are in milliseconds.
-/
namespace FeatureFlags

structure CacheSettings where
  enabled : Bool := true
  ttl : Nat := 60000
  maxSize : Nat := 10000
deriving DecidableEq

namespace CacheSettings

/-- Settings under which nothing is kept. -/
def disabled : CacheSettings := { enabled := false }

/-- A cache without room is as good as a disabled one. -/
def isActive (s : CacheSettings) : Bool := s.enabled && 0 < s.maxSize

/-- Unset variables leave the default. -/
def ofLookup (lookup : Lookup) : Except SetupError CacheSettings := do
  let defaults : CacheSettings := {}
  let enabled ← lookup.bool? "OPENFEATURE_CACHE_ENABLED"
  let ttl ← lookup.number? "OPENFEATURE_CACHE_TTL_MS"
  let maxSize ← lookup.number? "OPENFEATURE_CACHE_MAX_SIZE"
  return {
    enabled := enabled.getD defaults.enabled
    ttl := ttl.getD defaults.ttl
    maxSize := maxSize.getD defaults.maxSize }

end CacheSettings

end FeatureFlags
