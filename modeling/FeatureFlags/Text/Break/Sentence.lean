import FeatureFlags.Text.Break.Word
import FeatureFlags.Text.LetterCase
import FeatureFlags.Text.Pieces

/-!
# Breaks between sentences

The classes of characters by which texts are cut into sentences.
-/
namespace FeatureFlags.Text

/-- Georgian letters, which have a case but start no sentence. -/
def georgianSmall : CharSet := .ofRanges [(0x10d0, 0x10fa), (0x10fd, 0x10ff)]

def georgianCapital : CharSet := .ofRanges [(0x1c90, 0x1cba), (0x1cbd, 0x1cbf)]

def sentenceExtenders : CharSet := graphemeExtenders ∪ spacingMarks ∪ .ofRange 0x200d 0x200d

def sentenceLower : CharSet := lowercase \ (graphemeExtenders ∪ georgianSmall)

def sentenceUpper : CharSet := (uppercase ∪ titlecaseLetters) \ georgianCapital

/-- Letters that are neither small nor capital. -/
def sentenceLetters : CharSet :=
  (alphabetics ∪ .ofRange 0x5f3 0x5f3) \ (sentenceLower ∪ sentenceUpper ∪ sentenceExtenders)

/-- Full stops, which may also end an abbreviation. -/
def fullStops : CharSet := .ofGaps
  [46, 1, 8181, 1, 56877, 1, 187, 1]

/-- Signs behind which a sentence goes on. -/
def sentenceContinuations : CharSet := .ofGaps
  [44, 2, 12, 2, 834, 1, 478, 1, 174, 2, 490, 1, 4105, 1, 5, 1, 2058, 2, 4076, 1, 52750, 2, 1, 2,
   28, 2, 29, 2, 2, 2, 2, 1, 10, 1, 168, 2, 12, 2, 72, 1]

/-- Brackets that close nothing here, and further signs that do. -/
def closingExceptions : CharSet := .ofGaps
  [10075, 6, 1695, 2, 4, 3, 2, 1, 53494, 1, 4, 1, 63342, 3]

/-- Brackets and quotation marks. -/
def sentenceClosers : CharSet :=
  ((openers ∪ closers ∪ initialQuotes ∪ finalQuotes ∪ quotationMarks) \
    (fullStops ∪ sentenceTerminals)).symmDiff closingExceptions

def sentenceSeparators : CharSet := .ofRanges [(0x85, 0x85), (0x2028, 0x2029)]

/-- The class of a name for the breaks between sentences. -/
def sentenceClass? : String → Option CharSet
  | "cr" => some (.single '\r')
  | "lf" => some (.single '\n')
  | "se" | "sep" => some sentenceSeparators
  | "sp" => some (whiteSpace \ (sentenceSeparators ∪ .ofRanges [(10, 10), (13, 13)]))
  | "ex" | "extend" => some sentenceExtenders
  | "fo" | "format" =>
    some ((formats \ (prefixedSigns ∪ .ofRanges [(0x200c, 0x200d), (0xe0020, 0xe007f)])) ∪
      .ofRange 0x70f 0x70f)
  | "lo" | "lower" => some sentenceLower
  | "up" | "upper" => some sentenceUpper
  | "le" | "oletter" => some sentenceLetters
  | "nu" | "numeric" => some (wordDigits ∪ .ofRange 0x66c 0x66c)
  | "at" | "aterm" => some fullStops
  | "st" | "sterm" => some (sentenceTerminals \ fullStops)
  | "sc" | "scontinue" => some sentenceContinuations
  | "cl" | "close" => some sentenceClosers
  | _ => none

end FeatureFlags.Text
