import FeatureFlags.Cache.Basic
import FeatureFlags.Context
import FeatureFlags.Provider.Basic

/-!
# Cached providers

A cache in front of a provider. A result is kept under the flag's key, the type it was asked for,
and a digest of the context. The digest is a parameter: that keys tell contexts apart rests on it
alone. Answers from the cache have a reason of their own; all else that is asked of a provider is
passed on, and starting or stopping it empties the cache.
-/
namespace FeatureFlags

namespace Cache

def separator : String := String.singleton (Char.ofNat 0)

def key (digest : String → String) (flag : String) (t : FlagType) (c : Context) : String :=
  flag ++ separator ++ t.name ++ separator ++ digest c.canonicalText

/-- A kept result as an answer of a type; a value of another type is as good as none. -/
def typed? (t : FlagType) (r : Resolution Json) : Option (Resolution t.Value) :=
  (t.ofJson? r.value).map fun value => r.map fun _ => value

/-- Looks a result up in the cache of an owner. -/
def lookUp (owner : Nat) (key : String) : Eval (Option (Resolution Json)) := do
  let s ← get
  let (found, cache) := (s.caches owner).get? key s.now
  set { s with caches := s.caches.set owner cache }
  return found

def remember (owner : Nat) (key : String) (r : Resolution Json) : Eval Unit :=
  modify fun s => { s with caches := s.caches.set owner ((s.caches owner).insert key r s.now) }

def forget (owner : Nat) : Eval Unit :=
  modify fun s => { s with caches := s.caches.set owner (s.caches owner).clear }

end Cache

namespace Provider

/-- A provider behind the cache of an owner. -/
def cached (digest : String → String) (owner : Nat) (inner : Provider) : Provider where
  name := inner.name
  status := inner.status
  start c := do
    Cache.forget owner
    inner.start c
  stop := do
    Cache.forget owner
    inner.stop
  hooks := inner.hooks
  resolve t flag default c := do
    let key := Cache.key digest flag t c
    match (← Cache.lookUp owner key).bind (Cache.typed? t) with
    | some r =>
      Eval.report .trace "serving flag from cache" [("flag_key", .text flag)]
      return { r with reason := some .cached }
    | none =>
      let r ← inner.resolve t flag default c
      Cache.remember owner key r.toJson
      return r

end Provider

end FeatureFlags
