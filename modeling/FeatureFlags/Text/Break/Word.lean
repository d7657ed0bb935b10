import FeatureFlags.Text.Alphabetic
import FeatureFlags.Text.Break.Grapheme
import FeatureFlags.Text.Ideograph
import FeatureFlags.Text.Script.Basic

/-!
# Breaks between words

The classes of characters by which texts are cut into words. Scripts that are written without blanks
have their letters in none of the classes.
-/
namespace FeatureFlags.Text

/-- Signs that go with Katakana. -/
def kanaSigns : CharSet := .ofGaps
  [12337, 5, 101, 2, 3, 1, 91, 1, 52851, 1]

/-- Characters of Katakana words. -/
def katakanaLetters : CharSet := (scriptMembers "kana").symmDiff kanaSigns

def hebrewLetters : CharSet := scriptMembers "hebr" ∩ otherLetters

/-- Letters and marks of scripts whose words are not told apart by their characters. -/
def unspacedLetters : CharSet :=
  scriptMembers "hira" ∪ scriptMembers "thai" ∪ scriptMembers "lao"

/-- Letters of further scripts without blanks. -/
def unspacedAlphabetics : CharSet := .ofGaps
  [4096, 43, 20, 1, 16, 6, 4, 4, 3, 1, 3, 2, 7, 3, 4, 13, 12, 1, 1777, 52, 35, 1, 4, 1, 371, 30, 2,
   5, 11, 44, 4, 26, 86, 53, 82, 1, 36664, 5, 1, 10, 10, 5, 97, 23, 3, 1, 3, 50, 1, 1, 3, 2, 2, 5,
   2, 1, 1, 1, 24, 3, 27682, 27, 37, 7]

/-- Signs that are taken for letters. -/
def letterSigns : CharSet := .ofGaps
  [706, 4, 12, 6, 6, 2, 5, 7, 1, 1, 1, 17, 602, 3, 1, 1, 43, 1, 104, 1, 283, 1, 40952, 15, 9, 2,
   103, 2, 976, 1]

def wordExtenders : CharSet := graphemeExtenders ∪ spacingMarks ∪ emojiModifiers

/-- Letters of words. -/
def wordLetters : CharSet :=
  (alphabetics \ (ideographs ∪ katakanaLetters ∪ hebrewLetters ∪ unspacedLetters ∪
    unspacedAlphabetics ∪ wordExtenders)) ∪ letterSigns

/-- Signs and digits that go with decimal digits. -/
def digitSigns : CharSet := .ofGaps
  [1536, 6, 101, 1, 113, 1, 434, 2, 80, 1, 4343, 1, 63202, 1, 15, 1]

def wordDigits : CharSet := decimalNumbers.symmDiff digitSigns

/-- Signs between two letters. -/
def midLetters : CharSet := .ofGaps
  [58, 1, 124, 1, 719, 1, 471, 1, 148, 1, 6706, 1, 56811, 1, 65, 1, 196, 1]

/-- Signs between two digits. -/
def midNumbers : CharSet := .ofGaps
  [44, 1, 14, 1, 834, 1, 522, 1, 130, 2, 94, 1, 395, 1, 6219, 1, 56843, 1, 3, 1, 183, 1, 14, 1]

/-- Signs between two letters or two digits. -/
def midNumberLetters : CharSet := .ofGaps
  [46, 1, 8169, 2, 10, 1, 56877, 1, 180, 1, 6, 1]

/-- Signs that join letters and digits. -/
def wordConnectors : CharSet := .ofGaps
  [95, 1, 8143, 1, 15, 2, 19, 1, 56798, 2, 24, 3, 239, 1]

/-- Blanks that stay together. -/
def wordBlanks : CharSet := .ofGaps
  [32, 1, 5727, 1, 2431, 7, 1, 3, 84, 1, 4000, 1]

/-- Ends of lines, apart from the line feed and the carriage return. -/
def newlines : CharSet := .ofGaps
  [11, 2, 120, 1, 8098, 2]

/-- Layout characters inside words. -/
def wordFormats : CharSet :=
  formats \ (prefixedSigns ∪ .ofRanges [(0x200b, 0x200d), (0xe0020, 0xe007f)])

/-- The class of a name for the breaks between words. -/
def wordClass? : String → Option CharSet
  | "cr" => some (.single '\r')
  | "lf" => some (.single '\n')
  | "nl" | "newline" => some newlines
  | "dq" | "doublequote" => some (.single '"')
  | "sq" | "singlequote" => some (.ofRange 0x27 0x27)
  | "hl" | "hebrewletter" => some hebrewLetters
  | "ka" | "katakana" => some katakanaLetters
  | "le" | "aletter" => some wordLetters
  | "nu" | "numeric" => some wordDigits
  | "ml" | "midletter" => some midLetters
  | "mn" | "midnum" => some midNumbers
  | "mb" | "midnumlet" => some midNumberLetters
  | "ex" | "extendnumlet" => some wordConnectors
  | "extend" => some wordExtenders
  | "fo" | "format" => some wordFormats
  | "ri" | "regionalindicator" => some regionalIndicators
  | "wsegspace" => some wordBlanks
  | "zwj" => some (.ofRange 0x200d 0x200d)
  | _ => none

end FeatureFlags.Text
