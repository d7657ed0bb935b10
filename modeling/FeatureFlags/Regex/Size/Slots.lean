import Std.Data.HashMap

/-!
# Slots

A table that finds states by their keys, with a fixed number of slots and one entry in each. The
slot of a key follows from its numbers. A later entry takes the slot from an earlier one, whose
state is then not found any more.
-/
namespace FeatureFlags.Regex

structure Slots where
  count : Nat
  /-- The key and the state in each slot that is taken. -/
  entries : Std.HashMap Nat (List Nat × Nat)

namespace Slots

def empty (count : Nat) : Slots := ⟨count, {}⟩

/-- Mixes a number into a word of 64 bits: the two are combined bit by bit, and the result is spread
by a multiplication. -/
def mix (word : UInt64) (n : Nat) : UInt64 := (word ^^^ n.toUInt64) * 0x100000001b3

/-- The slot of a key. -/
def slot (t : Slots) (key : List Nat) : Nat :=
  (key.foldl mix 0xcbf29ce484222325).toNat % t.count

def find? (t : Slots) (key : List Nat) : Option Nat :=
  match t.entries[t.slot key]? with
  | some (other, state) => if other = key then some state else none
  | none => none

def insert (t : Slots) (key : List Nat) (state : Nat) : Slots :=
  { t with entries := t.entries.insert (t.slot key) (key, state) }

end Slots

end FeatureFlags.Regex
