import FeatureFlags.Text.Composition
import FeatureFlags.Text.Recent

/-!
# Joined letters

Letters of some scripts join those beside them. Two characters without width hold them together or
apart; where they would change nothing, a domain must not hold them.
-/
namespace FeatureFlags.Url

/-- Letters that join on both sides. -/
def dualJoiners : CharSet := .ofGaps
  [1568, 1, 5, 1, 1, 1, 1, 5, 4, 13, 1, 7, 1, 2, 35, 2, 9, 15, 18, 38, 1, 2, 9, 1, 1, 1, 1, 2, 40,
   3, 2, 1, 18, 3, 5, 4, 1, 9, 1, 1, 1, 1, 1, 2, 31, 11, 3, 15, 2, 4, 1, 1, 2, 3, 2, 6, 74, 33, 86,
   5, 2, 1, 1, 10, 1, 1, 10, 1, 1, 4, 2, 1, 29, 1, 2, 5, 1, 1, 16, 10, 5, 2, 2, 6, 1, 15, 3902, 1,
   24, 89, 14, 34, 1, 1, 36757, 50, 25166, 5, 14, 4, 1, 5, 1, 3, 10, 4, 145, 1, 1, 1, 3, 3, 1, 2, 1,
   1, 2, 1, 28, 2, 338, 33, 1, 1, 415, 2, 1, 2, 104, 3, 1, 17, 12, 3, 28, 4, 2, 12, 46, 1, 1, 2, 4,
   1, 2, 2, 1, 2, 1, 1, 2, 1, 5, 1, 55639, 34]

/-- Letters that join the one before only. -/
def backwardJoiners : CharSet := .ofGaps
  [1570, 4, 1, 1, 1, 1, 5, 4, 21, 1, 40, 3, 20, 18, 38, 1, 2, 9, 1, 1, 1, 1, 2, 2, 1, 1, 24, 2, 32,
   1, 4, 5, 4, 1, 9, 1, 1, 1, 1, 1, 2, 1, 29, 1, 11, 3, 15, 2, 4, 1, 1, 2, 3, 2, 198, 1, 5, 2, 1, 1,
   10, 1, 1, 3, 14, 1, 1, 2, 5, 19, 11, 1, 27, 3, 1, 1, 2, 2, 6, 1, 66059, 1, 1, 1, 1, 2, 3, 5, 10,
   1, 3, 1, 2, 1, 10, 1, 145, 1, 1, 3, 3, 1, 2, 1, 1, 2, 1, 1, 23, 4, 373, 1, 415, 1, 112, 1, 32, 1,
   31, 2, 62, 3, 2, 2, 2, 1, 4, 2, 5, 1]

/-- Letters that join the one behind only. -/
def forwardJoiners : CharSet := .ofGaps
  [43122, 1, 25178, 1, 9, 1, 552, 1, 714, 1]

/-- Marks that letters join across; one of them counts as a letter elsewhere. -/
def joinedAcross : CharSet := Text.placelessMarks ∪ .ofRange 0x1e94b 0x1e94b

/-- Whether a sign takes the vowel from the consonant before it. -/
def isVirama (c : Char) : Bool := Text.combiningClass c = 9

/-- Whether the next letter of a text is in a set, marks aside. -/
def meets (letters : CharSet) (s : List Char) : Bool :=
  (s.dropWhile joinedAcross.contains).head?.any letters.contains

/-- Whether a joiner may stand behind one text, which is read backwards, and before another. Behind
a virama any joiner may; elsewhere only the one that keeps apart two letters that would join. -/
def joinerFits (joiner : Char) (before after : List Char) : Bool :=
  before.head?.any isVirama ||
    joiner.toNat = 0x200c && meets (dualJoiners ∪ forwardJoiners) before &&
      meets (dualJoiners ∪ backwardJoiners) after

/-- Whether all joiners of a text stand where they may. The first text is what was read so far, the
last character first. -/
def joinersFit (before : List Char) : List Char → Bool
  | [] => true
  | c :: rest =>
    (!Text.joiners.contains c || joinerFits c before rest) && joinersFit (c :: before) rest

end FeatureFlags.Url
