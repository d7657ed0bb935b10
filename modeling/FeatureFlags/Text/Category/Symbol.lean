import FeatureFlags.Text.CharSet

/-!
# Symbols

Each table gives in turn how many code points are left out and how many are taken.
-/
namespace FeatureFlags.Text

/-- Mathematical symbols. -/
def mathSymbols : CharSet := .ofGaps
  [43, 1, 16, 3, 61, 1, 1, 1, 45, 1, 4, 1, 37, 1, 31, 1, 766, 1, 527, 3, 6715, 1, 13, 1, 39, 3, 13,
   3, 139, 1, 39, 5, 6, 1, 68, 5, 5, 2, 4, 1, 2, 1, 2, 1, 7, 1, 31, 2, 2, 1, 1, 1, 31, 268, 32, 2,
   90, 1, 30, 25, 40, 6, 469, 1, 9, 1, 54, 8, 111, 1, 336, 5, 2, 31, 10, 16, 256, 131, 22, 63, 4,
   32, 2, 258, 48, 21, 2, 6, 53212, 1, 824, 1, 1, 3, 164, 1, 16, 3, 61, 1, 1, 1, 131, 1, 6, 4, 3489,
   2, 51505, 1, 25, 1, 31, 1, 25, 1, 31, 1, 25, 1, 31, 1, 25, 1, 31, 1, 25, 1, 5932, 2]

/-- Symbols of currencies. -/
def currencySymbols : CharSet := .ofGaps
  [36, 1, 125, 4, 1257, 1, 123, 1, 498, 2, 498, 2, 7, 1, 245, 1, 263, 1, 581, 1, 2459, 1, 2244, 33,
   34679, 1, 21955, 1, 108, 1, 154, 1, 219, 2, 3, 2, 8182, 4, 49950, 1, 2480, 1]

/-- Symbols that change others. -/
def modifierSymbols : CharSet := .ofGaps
  [94, 1, 1, 1, 71, 1, 6, 1, 4, 1, 3, 1, 521, 4, 12, 14, 5, 7, 1, 1, 1, 17, 117, 1, 14, 2, 1282, 1,
   5940, 1, 1, 3, 11, 3, 13, 3, 13, 3, 13, 2, 4252, 2, 30307, 23, 9, 2, 103, 2, 976, 1, 14, 2,
   20550, 17, 891, 1, 1, 1, 162, 1, 62487, 5]

/-- All other symbols. -/
def otherSymbols : CharSet := .ofGaps
  [166, 1, 2, 1, 4, 1, 1, 1, 977, 1, 266, 2, 127, 2, 206, 1, 10, 1, 19, 2, 247, 1, 515, 1, 373, 1,
   130, 6, 1, 1, 132, 1, 207, 1, 41, 1, 391, 3, 15, 1, 1, 3, 2, 6, 20, 1, 1, 1, 1, 1, 133, 8, 1, 6,
   1, 2, 5, 4, 197, 2, 752, 10, 723, 1, 722, 1, 157, 34, 353, 10, 9, 9, 1411, 2, 1, 4, 1, 2, 10, 1,
   1, 2, 6, 6, 1, 1, 1, 1, 1, 1, 4, 1, 11, 2, 14, 1, 1, 2, 1, 1, 58, 2, 9, 5, 2, 4, 1, 2, 1, 2, 1,
   7, 1, 31, 2, 2, 1, 1, 1, 31, 268, 8, 4, 20, 2, 7, 2, 81, 1, 30, 25, 40, 6, 72, 22, 11, 81, 78,
   22, 183, 1, 9, 1, 54, 8, 111, 1, 248, 44, 44, 64, 256, 512, 48, 21, 2, 6, 39, 2, 32, 1, 105, 229,
   6, 357, 2, 46, 26, 1, 89, 12, 214, 26, 16, 4, 1, 13, 2, 12, 1, 21, 2, 6, 2, 336, 2, 4, 10, 32,
   38, 9, 1, 16, 31, 11, 30, 8, 1, 15, 32, 10, 39, 15, 320, 6592, 64, 22160, 55, 865, 4, 10, 2, 1,
   1, 573, 3, 21190, 16, 127, 1, 45, 3, 484, 1, 3, 1, 4, 2, 13, 2, 313, 9, 57, 17, 2, 3, 1, 13, 3,
   1, 47, 45, 1658, 2, 591, 1, 3190, 1, 2197, 8, 4, 17, 19274, 4, 5, 1, 20822, 1, 3939, 240, 16,
   436, 156, 116, 60, 246, 10, 39, 2, 60, 5, 3, 22, 2, 7, 30, 4, 61, 21, 66, 3, 1, 186, 87, 1193,
   512, 55, 4, 50, 8, 1, 14, 1, 2, 1736, 1, 2908, 1, 129, 1, 721, 44, 4, 100, 12, 15, 2, 15, 1, 15,
   1, 37, 23, 161, 56, 29, 13, 44, 4, 9, 7, 2, 14, 6, 154, 251, 5, 728, 4, 17, 3, 13, 3, 119, 4, 95,
   6, 12, 4, 1, 15, 12, 4, 56, 8, 10, 6, 40, 8, 30, 2, 12, 4, 2, 62, 340, 12, 14, 2, 13, 3, 10, 5,
   56, 7, 15, 2, 11, 6, 9, 7, 147, 1, 92]

end FeatureFlags.Text
