import FeatureFlags.Cache.Settings
import FeatureFlags.Resolution

/-!
# Caches of results

A bounded store of error-free results by key. Results expire some time after they were put in, and
when there is no room the one that was not used for the longest time goes. Every use gets the next
tick, and `recency` lists the keys by the tick of their last use, so that its head goes first.
-/
namespace FeatureFlags

structure Cache.Entry where
  detail : Resolution Json
  insertedAt : Nat
  /-- Tick of the last use. -/
  lastUsed : Nat

structure Cache where
  settings : CacheSettings
  entries : Table Cache.Entry
  recency : List (Nat × String)
  tick : Nat

namespace Cache

def ofSettings (settings : CacheSettings) : Cache := ⟨settings, .empty, [], 0⟩

instance : Inhabited Cache := ⟨ofSettings {}⟩

def size (c : Cache) : Nat := c.entries.size

/-- Forgets all results; ticks go on. -/
def clear (c : Cache) : Cache := { c with entries := .empty, recency := [] }

def remove (c : Cache) (key : String) : Cache :=
  match c.entries.get? key with
  | none => c
  | some e => { c with
      entries := c.entries.erase key
      recency := c.recency.filter (·.1 ≠ e.lastUsed) }

/-- A result, unless its time is over; then it is removed. Using a result makes it the most recent
one but does not prolong its time. -/
def get? (c : Cache) (key : String) (now : Nat) : Option (Resolution Json) × Cache :=
  if c.settings.isActive then
    match c.entries.get? key with
    | none => (none, c)
    | some e =>
      if c.settings.ttl ≤ now - e.insertedAt then (none, c.remove key)
      else
        let tick := c.tick + 1
        (some e.detail, { c with
          entries := c.entries.insert key { e with lastUsed := tick }
          recency := c.recency.filter (·.1 ≠ e.lastUsed) ++ [(tick, key)]
          tick })
  else (none, c)

/-- Drops the least recent results until no more than `room` are left. -/
def shrink (room : Nat) : List (Nat × String) → Table Entry → List (Nat × String) × Table Entry
  | [], entries => ([], entries)
  | (tick, key) :: rest, entries =>
    if room < entries.size then shrink room rest (entries.erase key)
    else ((tick, key) :: rest, entries)

/-- Keeps a result, with its time starting anew; results with an error are not kept. -/
def insert (c : Cache) (key : String) (detail : Resolution Json) (now : Nat) : Cache :=
  if c.settings.isActive && !detail.isError then
    let c := c.remove key
    let tick := c.tick + 1
    let kept := shrink c.settings.maxSize (c.recency ++ [(tick, key)])
      (c.entries.insert key ⟨detail, now, tick⟩)
    { c with recency := kept.1, entries := kept.2, tick }
  else c

end Cache

end FeatureFlags
