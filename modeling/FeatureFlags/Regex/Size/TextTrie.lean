import FeatureFlags.Regex.Size.Room

/-!
# Texts that share their front

Texts are held in a tree whose paths spell them. Where a text ends, those that came before it and
those that come after it are kept apart, so that the order of the texts is not lost.
-/
namespace FeatureFlags.Regex

/-- The texts between those that are empty. -/
def splitAtEmpty : List (List UInt8) → List (List (List UInt8))
  | [] => [[]]
  | [] :: rest => [] :: splitAtEmpty rest
  | text :: rest =>
    match splitAtEmpty rest with
    | [] => [[text]]
    | chunk :: chunks => (text :: chunk) :: chunks

/-- What follows the first byte, for each first byte of some texts. -/
def restsByByte (texts : List (List UInt8)) : List (List (List UInt8)) :=
  (texts.filterMap List.head?).eraseDups.map fun b =>
    texts.filterMap fun
      | c :: rest => if c = b then some rest else none
      | [] => none

namespace Room

/-- Adds a state that tells some bytes apart; one transition needs no room of its own. -/
def addBranching (r : Room) (transitions : Nat) : Room :=
  if transitions ≤ 1 then r.addStates 1 else (r.addStates 1).addTransitions transitions

/-- Adds the tree of some texts, none of which is longer than the first number says. A place behind
which nothing follows takes no room. -/
def addTree : Nat → List (List UInt8) → Room → Room
  | 0, _, r => r
  | length + 1, texts, r =>
    let chunks := (splitAtEmpty texts).map restsByByte
    let branching := chunks.filter fun chunk => !chunk.isEmpty
    if branching.isEmpty then r
    else
      branching.foldl
        (fun r chunk =>
          chunk.foldl (fun r rests => addTree length rests r) (r.addBranching chunk.length))
        ((r.addStates 1).addReferences (branching.length + (chunks.length - 1)))

/-- Adds a choice between texts of bytes. -/
def addTexts (texts : List (List UInt8)) (r : Room) : Room :=
  addTree ((texts.map (·.length)).foldl max 0 + 1) texts (r.addStates 1)

end Room

end FeatureFlags.Regex
