import FeatureFlags.Regex.Basic

/-!
# Machines

An expression becomes a list of steps that refer to each other by their places. A machine reads a
text once. At each position it holds the places from which a match could go on, and adds the one
where a match starts. So its time is bounded by the length of the text times the number of steps,
whatever the expression.
-/
namespace FeatureFlags.Regex

inductive Step where
  /-- A match is complete. -/
  | accept
  /-- Goes on behind a character of a set. -/
  | take (s : CharSet) (next : Nat)
  /-- Goes on if a condition holds. -/
  | check (l : Look) (next : Nat)
  /-- Goes on at both places. -/
  | fork (first second : Nat)
deriving DecidableEq

structure Machine where
  steps : Array Step
  start : Nat
deriving DecidableEq

/-! ## Making a machine -/

/-- The steps made so far and the place at which they are entered. A machine is made from its end:
each part is put in front of what follows it. -/
structure Draft where
  steps : Array Step
  entry : Nat

namespace Draft

def step (d : Draft) (s : Nat → Step) : Draft :=
  let place := d.steps.size
  ⟨d.steps.push (s d.entry), place⟩

/-- The characters of a text. -/
def text (d : Draft) (s : List Char) : Draft := s.foldr (fun c d => d.step (.take (.single c))) d

/-- A choice between two parts. -/
def fork (d : Draft) (first second : Draft → Draft) : Draft :=
  let exit := d.entry
  let a := first d
  let entry := a.entry
  (second { a with entry := exit }).step (.fork entry)

/-- A choice between texts. -/
def oneOf (d : Draft) : List (List Char) → Draft
  | [] => d.step (.take .none)
  | [s] => d.text s
  | s :: rest => d.fork (·.text s) (·.oneOf rest)

/-- A part that may be repeated, with the place behind it at which to repeat it or to go on. -/
def loop (d : Draft) (part : Draft → Draft) : Draft × Nat :=
  let place := d.steps.size
  let exit := d.entry
  let inside := part (d.step (.fork exit))
  let entry := inside.entry
  (⟨inside.steps.setIfInBounds place (.fork entry exit), entry⟩, place)

/-- A part that is taken at most so many times. -/
def atMost (d : Draft) (part : Draft → Draft) (count : Nat) : Draft :=
  let exit := d.entry
  Nat.repeat (fun made => (part made).step (.fork exit)) count d

/-- An expression. -/
def add : Regex → Draft → Draft
  | .empty, d => d
  | .text s, d => d.text s
  | .set s, d => d.step (.take s)
  | .look l, d => d.step (.check l)
  | .group _ r, d => add r d
  | .seq a b, d => add a (add b d)
  | .oneOf texts, d => d.oneOf texts
  | .alt a b, d => d.fork (add a) (add b)
  | .times r 0 none _, d =>
    let (inside, place) := d.loop (add r)
    { inside with entry := place }
  | .times r (min + 1) none _, d => Nat.repeat (add r) min (d.loop (add r)).1
  | .times r min (some max) _, d => Nat.repeat (add r) min (d.atMost (add r) (max - min))

end Draft

/-- The machine of an expression. -/
def machine (r : Regex) : Machine :=
  let made := Draft.add r ⟨#[.accept], 0⟩
  ⟨made.steps, made.entry⟩

namespace Machine

/-! ## Running a machine -/

/-- What is found at a position. -/
structure Reached where
  /-- For each place, the number of the last position at which it was reached. -/
  last : Array Nat
  /-- The places behind the character that follows. -/
  next : List Nat
  /-- Whether a match ends here. -/
  accepted : Bool

/-- Follows all places of a stack as far as no character is taken. Positions count from one. The
first number bounds how many places are looked at: each step that is reached for the first time puts
at most two on the stack. -/
def follow (m : Machine) (position : Nat) (before after : Option Char) :
    Nat → List Nat → Reached → Reached
  | 0, _, found => found
  | _, [], found => found
  | fuel + 1, place :: stack, found =>
    if found.last.getD place position = position then
      follow m position before after fuel stack found
    else
      let found := { found with last := found.last.setIfInBounds place position }
      match m.steps[place]? with
      | some .accept => follow m position before after fuel stack { found with accepted := true }
      | some (.take s next) =>
        follow m position before after fuel stack
          (if after.any s.contains then { found with next := next :: found.next } else found)
      | some (.check l next) =>
        follow m position before after fuel
          (if l.holds before after then next :: stack else stack) found
      | some (.fork first second) =>
        follow m position before after fuel (first :: second :: stack) found
      | none => found

/-- What is reached at a position from some places and from the start. -/
def reach (m : Machine) (position : Nat) (before after : Option Char) (places : List Nat)
    (last : Array Nat) : Reached :=
  m.follow position before after (places.length + 2 * m.steps.size + 2) (m.start :: places)
    ⟨last, [], false⟩

/-- Whether a match ends at a position or later. -/
def occursFrom (m : Machine) (position : Nat) (before : Option Char) (places : List Nat)
    (last : Array Nat) : List Char → Bool
  | [] => (m.reach position before none places last).accepted
  | c :: rest =>
    let found := m.reach position before (some c) places last
    found.accepted || m.occursFrom (position + 1) (some c) found.next found.last rest

/-- Whether a match stands anywhere in a text. -/
def occursIn (m : Machine) (s : String) : Bool :=
  m.occursFrom 1 none [] (Array.replicate m.steps.size 0) s.toList

end Machine

/-- Whether a match stands anywhere in a text. -/
def occursIn (r : Regex) (s : String) : Bool := r.machine.occursIn s

end FeatureFlags.Regex
