/-!
# Sets of characters

A set is held as the code points at which membership changes, in ascending order: the first one
starts the first run of members, the second one ends it, and so on. Every set has one such form, so
equal sets are equal values. Surrogates are no characters and belong to no set.
-/
namespace FeatureFlags

/-- The character of a code point, if it has one. -/
def Text.charOfCode? (n : Nat) : Option Char :=
  if n < 0xd800 ∨ 0xdfff < n ∧ n < 0x110000 then some (Char.ofNat n) else none

structure CharSet where
  changes : List Nat
deriving DecidableEq

namespace CharSet

/-- Membership of a code point behind a part of the changes, told what held before it. -/
def within : Bool → List Nat → Nat → Bool
  | inside, [], _ => inside
  | inside, x :: rest, n => if n < x then inside else within (!inside) rest n

def containsCode (s : CharSet) (n : Nat) : Bool := within false s.changes n

def contains (s : CharSet) (c : Char) : Bool := s.containsCode c.toNat

/-- Puts a change in front if it is one. -/
def changeAt (x : Nat) (before after : Bool) (rest : List Nat) : List Nat :=
  if before = after then rest else x :: rest

/-- The changes of a set that is decided by membership in two others. The flags say whether the
place is inside each of the two. -/
def combineChanges (op : Bool → Bool → Bool) : Bool → Bool → List Nat → List Nat → List Nat
  | _, _, [], [] => []
  | p, q, x :: a, [] => changeAt x (op p q) (op (!p) q) (combineChanges op (!p) q a [])
  | p, q, [], y :: b => changeAt y (op p q) (op p (!q)) (combineChanges op p (!q) [] b)
  | p, q, x :: a, y :: b =>
    if x < y then changeAt x (op p q) (op (!p) q) (combineChanges op (!p) q a (y :: b))
    else if y < x then changeAt y (op p q) (op p (!q)) (combineChanges op p (!q) (x :: a) b)
    else changeAt x (op p q) (op (!p) (!q)) (combineChanges op (!p) (!q) a b)
termination_by _ _ a b => a.length + b.length

def combine (op : Bool → Bool → Bool) (a b : CharSet) : CharSet :=
  ⟨combineChanges op false false a.changes b.changes⟩

instance : Union CharSet := ⟨combine fun p q => p || q⟩

instance : Inter CharSet := ⟨combine fun p q => p && q⟩

instance : SDiff CharSet := ⟨combine fun p q => p && !q⟩

/-- What is in exactly one of two sets. -/
def symmDiff (a b : CharSet) : CharSet := combine (fun p q => p != q) a b

def none : CharSet := ⟨[]⟩

/-- All characters. -/
def any : CharSet := ⟨[0, 0xd800, 0xe000, 0x110000]⟩

def compl (a : CharSet) : CharSet := any \ a

/-- The characters from one code point to another. -/
def ofRange (first last : Nat) : CharSet :=
  if first ≤ last then any ∩ ⟨[first, last + 1]⟩ else none

def ofRanges (ranges : List (Nat × Nat)) : CharSet :=
  ranges.foldl (fun s r => s ∪ ofRange r.1 r.2) none

def single (c : Char) : CharSet := ⟨[c.toNat, c.toNat + 1]⟩

/-- A table in which each change is given by its distance from the one before, the first one from
zero: how much is left out and how much is taken, in turn. -/
def ofGaps (gaps : List Nat) : CharSet := ⟨go 0 gaps⟩
where
  go (last : Nat) : List Nat → List Nat
    | [] => []
    | gap :: rest => (last + gap) :: go (last + gap) rest

/-- Runs of members, both ends included. -/
def ranges (s : CharSet) : List (Nat × Nat) := go s.changes
where
  go : List Nat → List (Nat × Nat)
    | x :: y :: rest => (x, y - 1) :: go rest
    | _ => []

/-- The set of some code points in ascending order; one may stand several times. -/
def ofAscending (codes : List Nat) : CharSet := ⟨go codes⟩
where
  go : List Nat → List Nat
    | [] => []
    | n :: rest =>
      match go rest with
      | [] => [n, n + 1]
      | x :: changes =>
        if x = n then x :: changes
        else if x = n + 1 then n :: changes
        else n :: (n + 1) :: x :: changes

/-- The set of some code points. -/
def ofCodes (codes : List Nat) : CharSet := ofAscending codes.mergeSort

/-- The only member of a set that has just one. -/
def only? (s : CharSet) : Option Char :=
  match s.changes with
  | [x, y] => if y = x + 1 then some (Char.ofNat x) else Option.none
  | _ => Option.none

def isEmpty (s : CharSet) : Bool := s.changes.isEmpty

/-- Whether all members are within ASCII. -/
def isAscii (s : CharSet) : Bool := s.changes.all (· ≤ 0x80)

def ascii : CharSet := ⟨[0, 0x80]⟩

end CharSet

end FeatureFlags
