import FeatureFlags.Text.Category.Basic

/-!
# Identifiers

The characters with which names in formal languages start and go on, in a plain form and in one that
is kept by compatibility mappings, and the characters that such languages reserve.
-/
namespace FeatureFlags.Text

/-- Starts of identifiers that are no letters. -/
def otherIdentifierStarts : CharSet := .ofGaps
  [6277, 2, 2193, 1, 21, 1, 3948, 2]

/-- Characters inside identifiers that are neither letters, marks nor digits. -/
def otherIdentifierContinuations : CharSet := .ofGaps
  [183, 1, 719, 1, 4065, 9, 1640, 1, 1585, 2, 4333, 1, 52841, 1]

/-- Characters reserved for syntax. -/
def patternSyntax : CharSet := .ofGaps
  [33, 15, 10, 7, 26, 4, 1, 1, 26, 4, 34, 7, 1, 1, 1, 2, 1, 1, 1, 2, 4, 1, 4, 1, 3, 1, 23, 1, 31, 1,
   7960, 24, 8, 15, 2, 19, 1, 10, 305, 720, 160, 630, 30, 1132, 512, 128, 385, 3, 4, 25, 15, 1,
   52493, 2, 261, 2]

/-- Blanks of patterns. -/
def patternWhiteSpace : CharSet := .ofGaps
  [9, 5, 18, 1, 100, 1, 8072, 2, 24, 2]

def identifierStarts : CharSet := (letters ∪ letterNumbers ∪ otherIdentifierStarts) \ patternSyntax

def identifierContinuations : CharSet :=
  identifierStarts ∪ nonspacingMarks ∪ spacingMarks ∪ decimalNumbers ∪ connectors ∪
    otherIdentifierContinuations

/-- Characters whose compatibility mapping is no identifier. -/
def unstableContinuations : CharSet := .ofGaps
  [890, 1, 11552, 2, 52161, 6, 406, 2, 116, 1, 1, 1, 1, 1, 1, 1, 1, 1, 1, 1, 1, 1, 1, 1]

/-- Characters whose compatibility mapping does not start an identifier. -/
def unstableStarts : CharSet := .ofGaps
  [890, 1, 2744, 1, 127, 1, 8679, 2, 52161, 6, 406, 2, 116, 1, 1, 1, 1, 1, 1, 1, 1, 1, 1, 1, 1, 1,
   1, 1, 287, 2]

def stableIdentifierStarts : CharSet := identifierStarts \ unstableStarts

def stableIdentifierContinuations : CharSet := identifierContinuations \ unstableContinuations

/-- Signs that mathematical names may start with. -/
def mathIdentifierStarts : CharSet := .ofGaps
  [8706, 1, 4, 1, 22, 1, 111778, 1, 25, 1, 31, 1, 25, 1, 31, 1, 25, 1, 31, 1, 25, 1, 31, 1, 25, 1]

/-- Signs inside mathematical names. -/
def mathIdentifierContinuations : CharSet := .ofGaps
  [178, 2, 5, 1, 8118, 1, 3, 11, 1, 15, 371, 1, 4, 1, 22, 1, 111778, 1, 25, 1, 31, 1, 25, 1, 31, 1,
   25, 1, 31, 1, 25, 1, 31, 1, 25, 1]

end FeatureFlags.Text
