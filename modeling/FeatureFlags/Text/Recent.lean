import FeatureFlags.Text.Alphabetic
import FeatureFlags.Text.Break.Grapheme

/-!
# Recent and upcoming characters

The tables that patterns go by are one edition older than those for names and messages. The newer
edition adds the recent characters, all of which are seen. Hosts go by an edition that is not
complete yet: it adds the upcoming ones, and some marks that took no place of their own take one.
-/
namespace FeatureFlags.Text

/-- All characters that are new. -/
def recentCharacters : CharSet := .ofGaps
  [2191, 1, 972, 1, 127, 1, 3570, 15, 2, 12, 1493, 1, 2772, 1, 31799, 2, 2, 1, 1, 1, 28, 1, 21457,
   16, 445, 2, 54, 7, 2929, 26, 1387, 3, 8, 9, 33, 2, 3172, 8, 584, 44, 4, 10, 20662, 25, 2, 25,
   286, 5, 6145, 8, 1289, 22, 97, 115, 16135, 3, 445, 23, 15, 17, 6095, 31, 1, 22, 8, 2, 4056, 1,
   158, 4, 341, 9, 379, 4, 50, 1, 3, 1, 57, 1, 4, 1, 28, 1, 4, 1, 266, 1, 47935, 6, 5986, 12, 21762,
   4298]

/-- Alphabetic ones. -/
def recentAlphabetics : CharSet := .ofGaps
  [2191, 1, 972, 1, 127, 1, 39665, 2, 2, 1, 1, 1, 28, 1, 24910, 26, 1387, 3, 50, 2, 3172, 8, 584,
   44, 20676, 25, 2, 25, 286, 5, 6145, 8, 1289, 22, 97, 115, 22733, 31, 1, 22, 8, 2, 53306, 6, 5986,
   12, 21762, 4298]

/-- Numbers. -/
def recentNumbers : CharSet := .ofGaps
  [73184, 10, 21002, 3]

/-- Marks. -/
def recentMarks : CharSet := .ofGaps
  [6863, 15, 2, 12, 62478, 2, 3172, 8, 52091, 1, 2, 1, 7, 2, 5, 1]

/-- Marks that extend the grapheme before. -/
def recentExtenders : CharSet := .ofGaps
  [6863, 15, 2, 12, 62478, 2, 3172, 1, 1, 3, 1, 1, 52092, 1, 2, 1, 7, 2, 5, 1]

def isAlphabetic (c : Char) : Bool := alphabetics.contains c || recentAlphabetics.contains c

def isNumber (c : Char) : Bool := numbers.contains c || recentNumbers.contains c

/-! ## Upcoming characters -/

/-- All characters that are to come. -/
def upcomingCharacters : CharSet := .ofGaps
  [1368, 1, 50, 1, 60, 2, 1418, 1, 3977, 2, 12, 5, 1438, 1, 13, 3, 34, 3, 3483, 4, 31097, 6, 905, 2,
   23629, 5, 1800, 4, 45, 1, 3088, 1, 2404, 1, 5, 11, 208, 311, 26191, 5, 68, 1, 224, 914, 14, 51,
   8085, 1, 7528, 2, 792, 21, 1190, 1, 1113, 29, 1250, 1, 4526, 1, 1322, 1, 256, 2, 21, 15, 651, 3,
   62, 1, 16, 1, 13, 1, 13, 2, 48419, 1, 71649, 11328]

/-- Marks among them, none of which takes a place of its own. -/
def upcomingMarks : CharSet := .ofGaps
  [1480, 2, 1418, 1, 3977, 2, 12, 5, 62472, 1]

/-- Marks that have come to take a place. -/
def widenedMarks : CharSet := .ofGaps
  [6970, 1, 1, 1, 5, 1]

/-- All marks that take no place of their own. -/
def placelessMarks : CharSet :=
  (nonspacingMarks ∪ enclosingMarks ∪ recentExtenders ∪ upcomingMarks) \ widenedMarks

def isMark (c : Char) : Bool :=
  marks.contains c || recentMarks.contains c || upcomingMarks.contains c

end FeatureFlags.Text
