import FeatureFlags.Text.CharSet

/-!
# Ideographs

Each table gives in turn how many code points are left out and how many are taken.
-/
namespace FeatureFlags.Text

/-- Characters that stand for words. -/
def ideographs : CharSet := .ofGaps
  [12294, 2, 25, 9, 14, 3, 965, 6592, 64, 20992, 22784, 366, 2, 106, 29962, 1, 27, 6136, 8, 1238,
   41, 10, 9319, 396, 19716, 42720, 32, 4154, 6, 222, 2, 5762, 14, 7473, 15, 622, 2466, 542, 1506,
   4939, 5, 4192]

/-- Ideographs that several languages have in common. -/
def unifiedIdeographs : CharSet := .ofGaps
  [13312, 6592, 64, 20992, 23054, 2, 1, 1, 1, 2, 10, 1, 1, 1, 1, 2, 2, 3, 67030, 42720, 32, 4154, 6,
   222, 2, 5762, 14, 7473, 15, 622, 4514, 4939, 5, 4192]

/-- Parts by which ideographs are ordered. -/
def radicals : CharSet := .ofGaps
  [11904, 26, 1, 89, 12, 214]

/-- Signs that describe an ideograph by one part. -/
def unaryDescriptions : CharSet := .ofGaps
  [12286, 2]

/-- Signs that describe an ideograph by two parts. -/
def binaryDescriptions : CharSet := .ofGaps
  [12272, 2, 2, 10, 497, 1]

/-- Signs that describe an ideograph by three parts. -/
def ternaryDescriptions : CharSet := .ofGaps
  [12274, 2]

end FeatureFlags.Text
