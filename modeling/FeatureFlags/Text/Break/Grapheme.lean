import FeatureFlags.Text.Emoji
import FeatureFlags.Text.Sign

/-!
# Graphemes

What is seen as one character may be several: a base with what extends it, syllables that are
written by letters, pairs of regional indicators.
-/
namespace FeatureFlags.Text

/-- Extenders among the characters that take a place. -/
def spacingExtenders : CharSet := .ofGaps
  [2494, 1, 24, 1, 358, 1, 24, 1, 102, 1, 24, 1, 232, 1, 1, 1, 4, 2, 1, 2, 9, 2, 103, 1, 24, 1, 119,
   1, 15, 1, 2357, 1, 30, 1, 1024, 1, 5, 1, 1, 1, 5, 2, 101, 1, 71, 2, 1048, 1, 4129, 2, 31011, 1,
   108, 1, 21981, 2, 4640, 1, 116, 1, 264, 1, 14, 1, 9, 1, 96, 1, 9, 1, 2, 1, 1, 3, 5, 1, 224, 1,
   12, 1, 241, 1, 262, 1, 633, 1, 12, 1, 1539, 1, 20654, 2, 24947, 2, 6, 6, 798381, 96]

/-- Characters that attach to the one before. -/
def graphemeExtenders : CharSet := nonspacingMarks ∪ enclosingMarks ∪ spacingExtenders

/-- Characters that stand on their own. -/
def graphemeBases : CharSet :=
  (visibleCharacters ∪ spaceSeparators) \ graphemeExtenders

/-- Signs that take the vowel from a consonant and may link it to the next one. -/
def viramas : CharSet := .ofGaps
  [2381, 1, 127, 1, 127, 1, 127, 1, 127, 1, 127, 1, 127, 1, 127, 1, 109, 2, 16, 1, 124, 1, 111, 1,
   127, 1, 201, 1, 180, 2, 1753, 2, 30, 1, 157, 1, 653, 1, 227, 1, 101, 2, 70, 2, 4491, 1, 31366, 1,
   37, 1, 151, 1, 142, 1, 108, 1, 309, 1, 246, 1, 24145, 1, 1542, 1, 41, 1, 14, 1, 57, 1, 121, 2,
   139, 1, 116, 1, 180, 1, 98, 1, 128, 3, 113, 1, 127, 1, 252, 1, 127, 1, 118, 1, 116, 1, 269, 1,
   259, 2, 161, 1, 83, 1, 18, 1, 81, 1, 421, 1, 260, 2, 81, 1, 425, 2, 16876, 1]

/-- Marks that take a place and belong to the grapheme before. -/
def spacingMarksInGraphemes : CharSet := .ofGaps
  [2307, 1, 55, 1, 2, 3, 8, 4, 1, 2, 50, 2, 59, 2, 6, 2, 2, 2, 54, 1, 58, 3, 66, 1, 58, 3, 8, 1, 1,
   2, 53, 2, 60, 1, 6, 2, 2, 2, 114, 1, 1, 2, 3, 3, 1, 3, 52, 3, 61, 4, 61, 2, 58, 1, 2, 1, 1, 2,
   46, 1, 14, 2, 59, 2, 5, 3, 1, 3, 53, 2, 76, 2, 6, 7, 19, 2, 63, 1, 127, 1, 138, 2, 63, 1, 177, 1,
   9, 2, 25, 2, 44, 1, 1841, 1, 7, 8, 1, 2, 346, 4, 2, 3, 4, 2, 1, 6, 224, 2, 58, 1, 1, 1, 21, 6,
   145, 1, 57, 4, 64, 1, 30, 1, 4, 2, 63, 1, 2, 3, 1, 1, 53, 8, 8, 2, 171, 1, 21, 1, 35627, 2, 2, 1,
   88, 2, 50, 16, 142, 1, 48, 1, 48, 2, 4, 2, 2, 2, 111, 2, 2, 2, 24, 1, 157, 1, 2, 2, 5, 1, 237, 2,
   1, 2, 1, 2, 1, 1, 25619, 1, 1, 1, 127, 1, 45, 3, 4, 2, 115, 1, 24, 2, 59, 1, 48, 3, 9, 1, 14, 1,
   93, 3, 3, 2, 172, 3, 31, 2, 59, 1, 1, 4, 2, 2, 2, 2, 21, 2, 85, 2, 15, 1, 1, 2, 103, 3, 8, 2, 3,
   1, 107, 2, 6, 1, 1, 2, 1, 1, 2, 1, 238, 2, 6, 4, 2, 1, 113, 3, 8, 2, 1, 1, 109, 1, 1, 2, 110, 1,
   7, 1, 261, 3, 9, 1, 248, 5, 1, 2, 7, 1, 1, 1, 142, 3, 8, 4, 4, 1, 84, 1, 29, 2, 62, 1, 407, 1,
   14, 1, 106, 1, 7, 1, 2, 1, 213, 5, 4, 2, 1, 1, 350, 2, 12, 1, 48, 2, 8, 2, 16874, 3, 3620, 55]

/-- Signs that belong to the grapheme behind them. -/
def prependedSigns : CharSet := .ofGaps
  [1536, 6, 215, 1, 49, 1, 384, 2, 80, 1, 1131, 1, 66414, 1, 15, 1, 244, 2, 525, 1, 1389, 1, 1, 1,
   248, 1, 73, 6, 700, 1, 443, 1]

/-- Consonants at the front of a syllable. -/
def leadingJamo : CharSet := .ofGaps
  [4352, 96, 38912, 29]

/-- Vowels of syllables. -/
def vowelJamo : CharSet := .ofGaps
  [4448, 72, 50696, 23, 38300, 1, 3, 4]

/-- Consonants at the end of a syllable. -/
def trailingJamo : CharSet := .ofGaps
  [4520, 88, 50635, 49]

/-- The syllables of two letters. -/
def openSyllables : CharSet := .ofCodes ((List.range 399).map fun i => 0xac00 + 28 * i)

/-- The syllables of three letters. -/
def closedSyllables : CharSet := .ofRange 0xac00 0xd7a3 \ openSyllables

/-- Characters that are graphemes of their own and never join others. -/
def graphemeControls : CharSet :=
  (lineSeparators ∪ paragraphSeparators ∪ controls ∪ formats ∪ unassigned ∩ defaultIgnorables) \
    (prefixedSigns ∪ .ofRanges [(10, 10), (13, 13), (0x200c, 0x200d), (0xe0020, 0xe007f)])

/-- The class of a name for the breaks between graphemes. -/
def graphemeClass? : String → Option CharSet
  | "cr" => some (.single '\r')
  | "lf" => some (.single '\n')
  | "cn" | "control" => some graphemeControls
  | "ex" | "extend" => some (graphemeExtenders ∪ emojiModifiers)
  | "zwj" => some (.ofRange 0x200d 0x200d)
  | "ri" | "regionalindicator" => some regionalIndicators
  | "pp" | "prepend" => some prependedSigns
  | "sm" | "spacingmark" => some spacingMarksInGraphemes
  | "l" => some leadingJamo
  | "v" => some vowelJamo
  | "t" => some trailingJamo
  | "lv" => some openSyllables
  | "lvt" => some closedSyllables
  | _ => none

end FeatureFlags.Text
