import FeatureFlags.Text.CaseFolding
import FeatureFlags.Text.Category.Basic

/-!
# Letter case

Characters that have a case, and characters that a change of case alters. Most of them are found by
case folding; the tables hold those of which it says too much or too little.
-/
namespace FeatureFlags.Text

/-- Small letters among the other characters. -/
def otherLowercase : CharSet := .ofGaps
  [170, 1, 15, 1, 501, 9, 7, 2, 30, 5, 96, 1, 52, 1, 3457, 1, 3119, 63, 13, 1, 34, 37, 689, 1, 13,
   1, 16, 13, 211, 16, 848, 26, 1938, 2, 31262, 2, 210, 1, 129, 3, 3, 2, 866, 4, 9, 1, 23574, 1, 2,
   3, 1, 42, 1, 9, 55413, 62]

/-- Capital letters among the other characters. -/
def otherUppercase : CharSet := .ofGaps
  [8544, 16, 838, 26, 117856, 26, 6, 26, 6, 26]

def lowercase : CharSet := lowercaseLetters ∪ otherLowercase

def uppercase : CharSet := uppercaseLetters ∪ otherUppercase

def cased : CharSet := lowercase ∪ uppercase ∪ titlecaseLetters

/-- Signs that case does not see, though they are neither marks nor modifiers. -/
def midWordSigns : CharSet := .ofGaps
  [39, 1, 6, 1, 11, 1, 124, 1, 719, 1, 471, 1, 148, 1, 6691, 2, 10, 1, 2, 1, 56811, 1, 62, 1, 2, 1,
   177, 1, 6, 1, 11, 1]

/-- Characters that stand beside letters without having a say in their case. -/
def caseIgnorable : CharSet :=
  nonspacingMarks ∪ enclosingMarks ∪ formats ∪ modifierLetters ∪ modifierSymbols ∪ midWordSigns

/-- Where lower case and folding differ. -/
def lowercasingExceptions : CharSet := .ofGaps
  [181, 1, 122, 1, 78, 1, 453, 1, 124, 1, 13, 2, 3, 2, 25, 2, 3, 1, 4010, 86, 2, 6, 2178, 9, 530, 1,
   290, 1, 20, 1, 15, 1, 35724, 80, 20293, 1]

/-- Where upper case is not the reverse of folding. -/
def uppercasingExceptions : CharSet := .ofGaps
  [181, 1, 123, 1, 23, 1, 53, 1, 69, 1, 2, 1, 2, 1, 36, 1, 1, 1, 338, 1, 124, 1, 13, 2, 3, 2, 25, 2,
   3, 1, 401, 1, 3608, 86, 2, 6, 2178, 9, 525, 6, 180, 1, 1, 1, 1, 1, 1, 1, 49, 8, 8, 8, 8, 8, 2, 1,
   1, 1, 1, 2, 4, 1, 1, 1, 3, 1, 1, 1, 1, 2, 4, 1, 5, 2, 2, 2, 10, 3, 1, 2, 10, 1, 1, 1, 1, 2, 4, 1,
   35699, 80, 20288, 6, 13, 5]

/-- Where title case and upper case differ. -/
def titlecasingExceptions : CharSet := .ofGaps
  [452, 2, 1, 2, 1, 2, 37, 2, 3805, 43, 2, 3, 3720, 8, 8, 8, 8, 8, 12, 1, 15, 1, 47, 1]

/-- Characters that fold to several, or that only a full folding tells apart. -/
def foldingExceptions : CharSet := .ofGaps
  [223, 1, 80, 1, 24, 1, 1085, 1, 6418, 1, 229, 8, 8, 8, 8, 8, 10, 3, 2, 1, 6, 1, 3, 3, 2, 1, 11, 1,
   15, 1, 14, 3, 2, 1, 56072, 5, 1, 1, 12, 5]

def changesInLowercase : CharSet := foldingSources.symmDiff lowercasingExceptions

def changesInUppercase : CharSet := foldingTargets.symmDiff uppercasingExceptions

def changesInTitlecase : CharSet := changesInUppercase.symmDiff titlecasingExceptions

def changesInFolding : CharSet := foldingSources.symmDiff foldingExceptions

def changesInAnyCase : CharSet := changesInLowercase ∪ changesInUppercase ∪ changesInTitlecase

end FeatureFlags.Text
