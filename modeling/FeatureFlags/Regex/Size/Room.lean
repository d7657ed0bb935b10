/-!
# Room

What an automaton takes: the same for each of its states, and more for the transitions and the
references that a state holds. States are numbered in the order in which they are made.
-/
namespace FeatureFlags.Regex

structure Room where
  states : Nat
  /-- The room of what the states hold. -/
  extra : Nat
deriving DecidableEq

namespace Room

/-- The room of one state of an automaton. -/
def stateSize : Nat := 32

/-- The room of a transition on a range of bytes. -/
def transitionSize : Nat := 8

/-- The room of a reference to another state. -/
def referenceSize : Nat := 4

def size (r : Room) : Nat := stateSize * r.states + r.extra

/-- The room there is for one automaton. -/
def maxSize : Nat := 0xa00000

def isOver (r : Room) : Bool := maxSize < r.size

def addStates (r : Room) (count : Nat) : Room := { r with states := r.states + count }

def addTransitions (r : Room) (count : Nat) : Room :=
  { r with extra := r.extra + transitionSize * count }

def addReferences (r : Room) (count : Nat) : Room :=
  { r with extra := r.extra + referenceSize * count }

/-- The same part several times. What is too large already need not grow. -/
def addCopies (part : Room → Room) : Nat → Room → Room
  | 0, r => r
  | count + 1, r => if r.isOver then r else addCopies part count (part r)

end Room

end FeatureFlags.Regex
