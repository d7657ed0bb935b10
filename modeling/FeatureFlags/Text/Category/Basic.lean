import FeatureFlags.Text.Category.Invisible
import FeatureFlags.Text.Category.Letter
import FeatureFlags.Text.Category.Mark
import FeatureFlags.Text.Category.Number
import FeatureFlags.Text.Category.Punctuation
import FeatureFlags.Text.Category.Symbol

/-!
# General categories

Every assigned character has exactly one general category. Here the categories are grouped.
-/
namespace FeatureFlags.Text

/-- Letters that have a case. -/
def casedLetters : CharSet := uppercaseLetters ∪ lowercaseLetters ∪ titlecaseLetters

def letters : CharSet := casedLetters ∪ modifierLetters ∪ otherLetters

def marks : CharSet := nonspacingMarks ∪ spacingMarks ∪ enclosingMarks

def numbers : CharSet := decimalNumbers ∪ letterNumbers ∪ otherNumbers

def punctuation : CharSet :=
  connectors ∪ dashes ∪ openers ∪ closers ∪ initialQuotes ∪ finalQuotes ∪ otherPunctuationMarks

def symbolCharacters : CharSet := mathSymbols ∪ currencySymbols ∪ modifierSymbols ∪ otherSymbols

def separators : CharSet := spaceSeparators ∪ lineSeparators ∪ paragraphSeparators

/-- The characters that are seen. -/
def visibleCharacters : CharSet := letters ∪ marks ∪ numbers ∪ punctuation ∪ symbolCharacters

def assigned : CharSet :=
  visibleCharacters ∪ separators ∪ controls ∪ formats ∪ privateCharacters

def unassigned : CharSet := assigned.compl

/-- Characters that are neither seen nor separate anything, and those that do not exist. -/
def otherCharacters : CharSet := controls ∪ formats ∪ privateCharacters ∪ unassigned

end FeatureFlags.Text
