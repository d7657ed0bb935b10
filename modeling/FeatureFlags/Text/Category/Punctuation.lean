import FeatureFlags.Text.CharSet

/-!
# Punctuation

Each table gives in turn how many code points are left out and how many are taken.
-/
namespace FeatureFlags.Text

/-- Characters that join words. -/
def connectors : CharSet := .ofGaps
  [95, 1, 8159, 2, 19, 1, 56798, 2, 24, 3, 239, 1]

/-- Dashes and hyphens. -/
def dashes : CharSet := .ofGaps
  [45, 1, 1372, 1, 51, 1, 3649, 1, 1029, 1, 2057, 6, 3585, 1, 2, 1, 31, 2, 4, 1, 28, 1, 446, 1, 19,
   1, 111, 1, 52624, 2, 37, 1, 10, 1, 169, 1, 3680, 1, 318, 1]

/-- Opening brackets. -/
def openers : CharSet := .ofGaps
  [40, 1, 50, 1, 31, 1, 3774, 1, 1, 1, 1886, 1, 2430, 1, 3, 1, 38, 1, 55, 1, 15, 1, 634, 1, 1, 1,
   30, 1, 1086, 1, 1, 1, 1, 1, 1, 1, 1, 1, 1, 1, 1, 1, 80, 1, 32, 1, 1, 1, 1, 1, 1, 1, 1, 1, 404, 1,
   1, 1, 1, 1, 1, 1, 1, 1, 1, 1, 1, 1, 1, 1, 1, 1, 1, 1, 1, 1, 64, 1, 1, 1, 33, 1, 1061, 1, 1, 1, 1,
   1, 1, 1, 25, 1, 18, 1, 1, 1, 1, 1, 1, 1, 428, 1, 1, 1, 1, 1, 1, 1, 1, 1, 3, 1, 1, 1, 1, 1, 1, 1,
   2, 1, 52513, 1, 215, 1, 29, 1, 1, 1, 1, 1, 1, 1, 1, 1, 1, 1, 1, 1, 1, 1, 3, 1, 17, 1, 1, 1, 1, 1,
   170, 1, 50, 1, 31, 1, 3, 1, 2, 1]

/-- Closing brackets. -/
def closers : CharSet := .ofGaps
  [41, 1, 51, 1, 31, 1, 3773, 1, 1, 1, 1886, 1, 2473, 1, 55, 1, 15, 1, 634, 1, 1, 1, 30, 1, 1086, 1,
   1, 1, 1, 1, 1, 1, 1, 1, 1, 1, 1, 1, 80, 1, 32, 1, 1, 1, 1, 1, 1, 1, 1, 1, 404, 1, 1, 1, 1, 1, 1,
   1, 1, 1, 1, 1, 1, 1, 1, 1, 1, 1, 1, 1, 1, 1, 64, 1, 1, 1, 33, 1, 1061, 1, 1, 1, 1, 1, 1, 1, 44,
   1, 1, 1, 1, 1, 1, 1, 428, 1, 1, 1, 1, 1, 1, 1, 1, 1, 3, 1, 1, 1, 1, 1, 1, 1, 2, 2, 52510, 1, 217,
   1, 29, 1, 1, 1, 1, 1, 1, 1, 1, 1, 1, 1, 1, 1, 1, 1, 3, 1, 17, 1, 1, 1, 1, 1, 170, 1, 51, 1, 31,
   1, 2, 1, 2, 1]

/-- Opening quotation marks. -/
def initialQuotes : CharSet := .ofGaps
  [171, 1, 8044, 1, 2, 2, 2, 1, 25, 1, 3528, 1, 1, 1, 4, 1, 2, 1, 15, 1, 3, 1]

/-- Closing quotation marks. -/
def finalQuotes : CharSet := .ofGaps
  [187, 1, 8029, 1, 3, 1, 28, 1, 3528, 1, 1, 1, 4, 1, 2, 1, 15, 1, 3, 1]

/-- All other punctuation. -/
def otherPunctuationMarks : CharSet := .ofGaps
  [33, 3, 1, 3, 2, 1, 1, 1, 1, 2, 10, 2, 3, 2, 27, 1, 68, 1, 5, 1, 14, 2, 7, 1, 702, 1, 8, 1, 466,
   6, 41, 1, 54, 1, 2, 1, 2, 1, 44, 2, 20, 2, 1, 2, 13, 1, 1, 3, 74, 4, 102, 1, 43, 14, 233, 3, 54,
   15, 31, 1, 261, 2, 10, 1, 140, 1, 120, 1, 121, 1, 390, 1, 12, 1, 367, 1, 90, 1, 10, 2, 168, 15,
   1, 1, 112, 1, 74, 5, 4, 2, 111, 6, 171, 1, 612, 9, 773, 1, 124, 3, 71, 2, 157, 3, 1, 3, 37, 6, 1,
   4, 313, 2, 216, 2, 128, 7, 1, 6, 160, 2, 10, 7, 28, 3, 124, 4, 59, 5, 62, 2, 64, 8, 11, 1, 834,
   2, 8, 8, 8, 9, 2, 4, 2, 3, 3, 11, 1, 1, 1, 10, 3226, 4, 1, 2, 112, 1, 143, 2, 4, 3, 2, 1, 2, 9,
   1, 2, 1, 1, 2, 2, 10, 5, 1, 10, 2, 4, 1, 1, 1, 13, 2, 3, 428, 3, 57, 1, 189, 1, 29698, 2, 269, 3,
   99, 1, 10, 1, 115, 6, 380, 4, 86, 2, 40, 3, 1, 1, 49, 2, 47, 1, 97, 13, 16, 2, 124, 4, 126, 2,
   16, 2, 249, 1, 21028, 7, 2, 1, 22, 1, 20, 2, 2, 4, 3, 3, 1, 4, 7, 3, 6, 1, 1, 2, 149, 3, 1, 3, 2,
   1, 1, 1, 1, 2, 10, 2, 3, 2, 27, 1, 36, 1, 2, 2, 410, 3, 668, 1, 48, 1, 414, 1, 743, 1, 199, 1,
   31, 1, 272, 9, 38, 1, 112, 7, 66, 7, 89, 4, 952, 5, 44, 4, 189, 7, 109, 2, 1, 4, 126, 4, 48, 2,
   79, 4, 4, 1, 13, 1, 1, 3, 88, 6, 107, 1, 298, 2, 1, 2, 114, 5, 10, 2, 1, 1, 104, 1, 250, 23, 105,
   3, 28, 13, 76, 1, 130, 3, 252, 1, 264, 3, 155, 1, 92, 8, 83, 3, 1, 5, 93, 10, 215, 1, 95, 5, 42,
   2, 645, 2, 74, 13, 175, 1, 1136, 5, 2940, 2, 14971, 2, 133, 1, 65, 5, 8, 1, 552, 3, 295, 4, 327,
   1, 19644, 1, 7655, 5, 2931, 1, 862, 2]

end FeatureFlags.Text
