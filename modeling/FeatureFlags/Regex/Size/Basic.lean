import FeatureFlags.Regex.Build
import FeatureFlags.Regex.Size.SetStates
import FeatureFlags.Regex.Size.TextTrie

/-!
# How much room a pattern takes

A pattern is matched by automata over bytes, one that reads forward and one that reads backward, and
both have to fit into a fixed room. Their states are counted in the order in which they are made,
since the states of a set depend on the numbers of those before them. Repetitions are unfolded.
-/
namespace FeatureFlags.Regex

inductive Direction where
  | forward
  | backward
deriving DecidableEq

/-- The bytes of a text in the order in which they are read. -/
def bytesOf (d : Direction) (s : List Char) : List UInt8 :=
  let bytes := s.flatMap String.utf8EncodeChar
  match d with
  | .forward => bytes
  | .backward => bytes.reverse

/-- The least number of characters of a match; there is none if nothing matches. -/
def leastLength : Regex → Option Nat
  | empty | look _ => some 0
  | text s => some s.length
  | set s => if s.isEmpty then none else some 1
  | oneOf texts => some ((texts.map (·.length)).min?.getD 0)
  | group _ r => leastLength r
  | seq a b => do return (← leastLength a) + (← leastLength b)
  | alt a b => do return min (← leastLength a) (← leastLength b)
  | times r least _ _ => (leastLength r).map (least * ·)

namespace Room

/-- Within ASCII a set is one state that tells bytes apart, and what it leads to. -/
def addSet (d : Direction) (s : CharSet) (r : Room) : Room :=
  if s.isAscii then (r.addStates 2).addTransitions s.ranges.length
  else match d with
    | .forward => r.addForwardSet (byteRuns s)
    | .backward => r.addBackwardSet (byteRuns s)

/-- Adds what a branch of a choice needs beside itself. The states around a choice are made once
there is a second branch. -/
def addBranch (r : Room) : Nat → Room
  | 0 => r
  | 1 => (r.addStates 2).addReferences 2
  | _ => r.addReferences 1

/-- A part that may be left out. -/
def addOption (part : Room → Room) (r : Room) : Room := (part (r.addStates 1)).addReferences 2

/-- A part that is repeated. A loop around what may be empty takes more than one around what takes a
character. Parts that are taken at most so often are options one inside the other. -/
def addRepeated (part : Room → Room) (consumes : Bool) (min : Nat) (max : Option Nat)
    (r : Room) : Room :=
  match min, max with
  | 0, some 1 => (addOption part r).addStates 1
  | 0, none => if consumes then addOption part r else ((part r).addStates 3).addReferences 4
  | min, none => ((addCopies part min r).addStates 1).addReferences 2
  | min, some max =>
    if min = max then addCopies part min r
    else
      let least := if min = 0 then r.addStates 1 else addCopies part min r
      addCopies (addOption part) (max - min) (least.addStates 1)

/-- Adds an expression, told how many branches of a choice stand before it. -/
def addRegex (d : Direction) : Regex → Nat → Room → Room
  | .empty, before, r | .look _, before, r => (r.addStates 1).addBranch before
  | .text s, before, r => (r.addStates (bytesOf d s).length).addBranch before
  | .set s, before, r => (r.addSet d s).addBranch before
  | .oneOf texts, before, r => (r.addTexts (texts.map (bytesOf d))).addBranch before
  | .group _ e, before, r =>
    match d with
    | .forward => ((addRegex d e 0 (r.addStates 1)).addStates 1).addBranch before
    | .backward => (addRegex d e 0 r).addBranch before
  | .seq a b, before, r =>
    match d with
    | .forward => (addRegex d b 0 (addRegex d a 0 r)).addBranch before
    | .backward => (addRegex d a 0 (addRegex d b 0 r)).addBranch before
  | .alt a b, before, r => addRegex d b (before + 1) (addRegex d a before r)
  | .times e min max _, before, r =>
    (addRepeated (addRegex d e 0) ((leastLength e).any (0 < ·)) min max r).addBranch before

end Room

/-- Whether every match starts at the start of the text; in the other direction, whether it ends at
the end. -/
def isAnchored (d : Direction) : Regex → Bool
  | look l => l = (match d with | .forward => .textStart | .backward => .textEnd)
  | group _ r => isAnchored d r
  | seq a b =>
    match d with
    | .forward => isAnchored d a || a.isWidthless && isAnchored d b
    | .backward => isAnchored d b || b.isWidthless && isAnchored d a
  | alt a b => isAnchored d a && isAnchored d b
  | times r min _ _ => 0 < min && isAnchored d r
  | empty | text _ | set _ | oneOf _ => false

/-- The room of the automaton of an expression: a match that may stand anywhere needs a loop in
front, the whole is a group, and the end of a match is a state. -/
def room (d : Direction) (r : Regex) : Room :=
  let front : Room :=
    if isAnchored d r then ⟨1, 0⟩
    else (((⟨3, 0⟩ : Room).addTransitions 1).addReferences 2)
  ((front.addRegex d (group 0 r) 0).addStates 1)

/-- Whether both automata of an expression have the room they need. -/
def fits (r : Regex) : Bool := !(room .forward r).isOver && !(room .backward r).isOver

end FeatureFlags.Regex
