import FeatureFlags.Text.Category.Basic

/-!
# Signs by their use

Each table gives in turn how many code points are left out and how many are taken.
-/
namespace FeatureFlags.Text

/-- Dashes, also mathematical ones. -/
def dashSigns : CharSet := .ofGaps
  [45, 1, 1372, 1, 51, 1, 3649, 1, 1029, 1, 2057, 6, 61, 1, 39, 1, 15, 1, 390, 1, 3076, 1, 2, 1, 31,
   2, 4, 1, 28, 1, 446, 1, 19, 1, 111, 1, 52624, 2, 37, 1, 10, 1, 169, 1, 3680, 1, 318, 1]

/-- Hyphens. -/
def hyphens : CharSet := .ofGaps
  [45, 1, 127, 1, 1244, 1, 4731, 1, 2057, 2, 3589, 1, 739, 1, 52583, 1, 169, 1, 87, 1]

/-- Quotation marks. -/
def quotationMarks : CharSet := .ofGaps
  [34, 1, 4, 1, 131, 1, 15, 1, 8028, 8, 25, 2, 3591, 1, 457, 4, 13, 3, 52769, 4, 189, 1, 4, 1, 90,
   2]

/-- Punctuation at the end of a part of a sentence. -/
def terminalPunctuation : CharSet := .ofGaps
  [33, 1, 10, 1, 1, 1, 11, 2, 3, 1, 830, 1, 8, 1, 513, 1, 57, 1, 72, 1, 14, 1, 1, 3, 180, 1, 43, 11,
   1, 1, 235, 2, 54, 6, 1, 8, 31, 1, 261, 2, 1268, 2, 172, 1, 4, 6, 311, 2, 789, 8, 773, 1, 124, 3,
   71, 2, 157, 3, 3, 1, 39, 4, 2, 2, 314, 2, 354, 4, 162, 2, 10, 2, 1, 3, 29, 3, 187, 5, 62, 2, 932,
   1, 23, 2, 9, 3, 3247, 3, 306, 1, 13, 1, 4, 1, 10, 1, 1, 2, 3, 2, 428, 2, 29947, 2, 269, 3, 227,
   5, 382, 2, 86, 2, 95, 1, 151, 3, 147, 3, 127, 1, 16, 2, 249, 1, 21030, 1, 2, 2, 57, 3, 1, 4, 169,
   1, 10, 1, 1, 1, 11, 2, 3, 1, 65, 1, 2, 1, 1082, 1, 48, 1, 1158, 1, 199, 1, 310, 2, 152, 6, 68, 6,
   89, 4, 952, 5, 44, 4, 189, 7, 112, 4, 127, 3, 129, 2, 6, 1, 16, 2, 88, 5, 108, 1, 298, 2, 117, 3,
   12, 2, 358, 4, 3, 15, 105, 2, 249, 3, 517, 1, 1, 1, 251, 2, 87, 2, 4, 2, 414, 3, 45, 1, 645, 2,
   74, 2, 1323, 5, 17913, 2, 133, 1, 65, 3, 10, 1, 553, 2, 295, 2, 19974, 1, 7655, 4]

/-- Punctuation at the end of a sentence. -/
def sentenceTerminals : CharSet := .ofGaps
  [33, 1, 12, 1, 16, 1, 1353, 1, 147, 3, 180, 1, 43, 3, 246, 1, 61, 1, 1, 1, 3, 2, 293, 2, 1764, 2,
   790, 1, 4, 2, 773, 1, 198, 2, 157, 2, 45, 1, 5, 1, 314, 2, 354, 4, 162, 2, 10, 2, 2, 2, 29, 3,
   187, 2, 65, 2, 932, 1, 23, 2, 9, 3, 3247, 3, 306, 1, 13, 1, 22, 2, 429, 1, 29948, 1, 270, 2, 227,
   1, 3, 1, 382, 2, 86, 2, 95, 1, 152, 2, 147, 3, 144, 2, 249, 1, 21030, 1, 2, 2, 59, 1, 3, 2, 169,
   1, 12, 1, 16, 1, 65, 1, 2804, 2, 1277, 5, 44, 4, 189, 2, 117, 4, 127, 3, 129, 2, 6, 1, 16, 2, 88,
   2, 1, 2, 108, 1, 298, 2, 117, 2, 373, 2, 5, 15, 105, 2, 249, 3, 517, 1, 1, 1, 251, 2, 87, 2, 420,
   2, 692, 2, 74, 2, 19241, 2, 133, 1, 65, 2, 11, 1, 553, 2, 296, 1, 19974, 1, 7656, 1]

/-- Signs that change the value of a letter. -/
def diacritics : CharSet := .ofGaps
  [94, 1, 1, 1, 71, 1, 6, 1, 4, 1, 2, 2, 503, 159, 1, 8, 5, 6, 17, 2, 4, 1, 9, 2, 253, 5, 209, 1,
   55, 17, 1, 27, 1, 1, 1, 2, 1, 1, 134, 8, 4, 2, 134, 2, 4, 2, 3, 3, 67, 27, 91, 11, 58, 11, 34, 2,
   126, 8, 41, 10, 16, 28, 61, 1, 16, 1, 3, 4, 28, 1, 74, 1, 16, 1, 110, 1, 16, 1, 110, 1, 16, 1,
   47, 3, 60, 1, 16, 1, 7, 1, 119, 1, 110, 1, 16, 1, 110, 1, 16, 1, 109, 2, 16, 1, 124, 1, 111, 1,
   12, 6, 1, 1, 107, 1, 13, 5, 75, 2, 27, 1, 1, 1, 1, 1, 4, 2, 66, 3, 1, 2, 62, 1, 112, 1, 1, 2, 40,
   2, 4, 5, 25, 7, 1, 1, 10, 2, 705, 3, 948, 2, 30, 1, 148, 11, 9, 1, 347, 3, 292, 1, 20, 8, 2, 1,
   48, 15, 2, 11, 104, 1, 15, 1, 38, 9, 54, 2, 58, 1, 11, 2, 66, 2, 64, 6, 82, 25, 4, 1, 6, 1, 2, 3,
   50, 63, 89, 12, 37, 11, 445, 1, 1, 3, 11, 3, 13, 3, 13, 3, 13, 2, 3312, 3, 317, 1, 506, 6, 105,
   4, 95, 1, 30066, 1, 12, 2, 1, 1, 28, 2, 82, 2, 14, 34, 102, 3, 109, 2, 12, 1, 37, 1, 151, 1, 27,
   18, 57, 4, 36, 1, 95, 1, 12, 1, 36, 1, 149, 3, 65, 4, 51, 1, 100, 5, 9, 3, 128, 2, 20272, 1, 769,
   16, 270, 1, 1, 1, 47, 1, 45, 2, 67, 1, 764, 1, 1183, 6, 1, 42, 1, 9, 637, 3, 4, 1, 165, 2, 571,
   6, 38, 1, 26, 5, 399, 3, 70, 11, 49, 4, 192, 1, 41, 1, 72, 2, 120, 2, 62, 1, 76, 1, 9, 3, 104, 2,
   178, 2, 80, 2, 16, 1, 24, 7, 3, 5, 89, 3, 1, 2, 13, 2, 95, 1, 3, 1, 123, 2, 251, 2, 126, 1, 118,
   2, 115, 1, 269, 2, 258, 2, 4, 1, 156, 1, 83, 1, 18, 1, 81, 1, 421, 1, 258, 1, 1, 2, 81, 1, 425,
   2, 23, 1, 5356, 15, 11481, 1, 2496, 5, 59, 7, 564, 2, 546, 17, 80, 2, 16382, 4, 1, 7, 1, 2, 7937,
   46, 2, 23, 544, 3, 3, 6, 8, 8, 2, 7, 30, 4, 3714, 62, 194, 7, 375, 1, 61, 4, 766, 2, 736, 7, 109,
   3, 1, 3]

/-- Signs that lengthen or repeat a letter. -/
def extenders : CharSet := .ofGaps
  [183, 1, 536, 2, 878, 1, 441, 1, 630, 1, 137, 1, 89, 1, 752, 1, 127, 1, 2371, 1, 56, 1, 611, 1,
   398, 1, 68, 1, 5001, 1, 43, 5, 103, 2, 93, 3, 28438, 1, 1526, 1, 962, 1, 22, 1, 137, 1, 108, 1,
   21, 2, 21627, 1, 2064, 2, 1483, 1, 27, 1, 4, 1, 1223, 1, 293, 1, 116, 2, 498, 3, 1231, 1, 20649,
   2, 1180, 2, 1, 1, 29016, 2, 1201, 1, 852, 3]

/-- Mathematical characters that are no mathematical symbols. -/
def otherMathematical : CharSet := .ofGaps
  [94, 1, 881, 3, 2, 1, 26, 2, 2, 2, 7200, 1, 27, 3, 11, 1, 32, 4, 24, 2, 14, 2, 65, 13, 4, 1, 3, 2,
   4, 5, 18, 1, 4, 1, 2, 10, 1, 1, 3, 5, 6, 1, 3, 2, 2, 2, 1, 3, 1, 6, 3, 4, 5, 5, 75, 5, 2, 4, 1,
   2, 1, 2, 1, 1, 1, 5, 2, 2, 4, 2, 4, 18, 2, 2, 1, 1, 1, 7, 1, 1, 6, 2, 290, 4, 168, 2, 1, 1, 24,
   1, 17, 1, 445, 2, 12, 9, 5, 5, 5, 2, 2, 2, 3, 5, 14, 1, 1, 1, 2, 6, 24, 2, 57, 1, 1, 1, 29, 4, 9,
   2, 342, 2, 31, 10, 403, 22, 63, 4, 32, 2, 54371, 1, 1, 1, 4, 1, 211, 1, 1, 1, 54465, 85, 1, 71,
   1, 2, 2, 1, 2, 2, 2, 4, 1, 12, 1, 1, 1, 7, 1, 65, 1, 4, 2, 8, 1, 7, 1, 28, 1, 4, 1, 5, 1, 1, 3,
   7, 1, 340, 2, 25, 1, 25, 1, 31, 1, 25, 1, 31, 1, 25, 1, 31, 1, 25, 1, 31, 1, 25, 1, 8, 2, 50,
   5632, 4, 1, 27, 1, 2, 1, 1, 2, 1, 1, 10, 1, 4, 1, 1, 1, 1, 6, 1, 4, 1, 1, 1, 1, 1, 1, 3, 1, 2, 1,
   1, 2, 1, 1, 1, 1, 1, 1, 1, 1, 1, 1, 2, 1, 1, 2, 4, 1, 7, 1, 4, 1, 4, 1, 1, 1, 10, 1, 17, 5, 3, 1,
   5, 1, 17]

def mathematical : CharSet := mathSymbols ∪ otherMathematical

/-- Digits of numbers in base sixteen. -/
def hexadecimalDigits : CharSet := .ofGaps
  [48, 10, 7, 6, 26, 6, 65193, 10, 7, 6, 26, 6]

/-- Those within ASCII. -/
def asciiHexadecimalDigits : CharSet := .ofGaps
  [48, 10, 7, 6, 26, 6]

/-- Letters that lose their dot under a mark. -/
def softDotted : CharSet := .ofGaps
  [105, 2, 196, 1, 281, 1, 30, 1, 52, 1, 20, 1, 320, 1, 98, 1, 1, 1, 6409, 1, 51, 1, 13, 1, 3, 1,
   132, 1, 157, 1, 421, 1, 214, 2, 2866, 1, 108453, 2, 50, 2, 50, 2, 50, 2, 50, 2, 50, 2, 50, 2, 50,
   2, 50, 2, 50, 2, 50, 2, 50, 2, 50, 2, 2182, 1, 305, 2, 26, 1]

/-- Characters that should not be used. -/
def deprecatedCharacters : CharSet := .ofGaps
  [329, 1, 1321, 1, 2307, 1, 1, 1, 2089, 2, 2245, 6, 697, 2, 908502, 1]

/-- Vowels that are written before the consonant they follow in speech. -/
def visuallyOrdered : CharSet := .ofGaps
  [3648, 5, 123, 5, 2800, 3, 2, 1, 37114, 2, 2, 1, 1, 2]

/-- Signs that enclose the digits behind them. -/
def prefixedSigns : CharSet := .ofGaps
  [1536, 6, 215, 1, 49, 1, 384, 2, 80, 1, 67546, 1, 15, 1]

/-- Controls of the direction of writing. -/
def bidirectionalControls : CharSet := .ofGaps
  [1564, 1, 6641, 2, 26, 5, 55, 4]

/-- Signs that are mirrored where text is written to the left. -/
def mirroredSigns : CharSet := .ofGaps
  [40, 2, 18, 1, 1, 1, 28, 1, 1, 1, 29, 1, 1, 1, 45, 1, 15, 1, 3710, 4, 1885, 2, 2460, 2, 10, 2, 54,
   2, 14, 2, 177, 1, 192, 4, 3, 6, 3, 1, 3, 2, 3, 4, 1, 4, 1, 1, 1, 1, 4, 9, 5, 1, 1, 18, 5, 4, 9,
   2, 1, 1, 1, 8, 1, 32, 2, 4, 5, 1, 9, 2, 2, 19, 5, 2, 9, 5, 2, 2, 4, 24, 2, 16, 8, 4, 20, 2, 7, 2,
   1085, 14, 74, 1, 2, 4, 1, 2, 1, 3, 5, 4, 5, 3, 3, 14, 403, 22, 2, 6, 1, 14, 8, 1, 7, 6, 3, 1, 4,
   5, 1, 2, 2, 5, 4, 1, 1, 3, 2, 2, 10, 6, 2, 2, 12, 19, 1, 4, 2, 1, 1, 1, 2, 1, 1, 4, 5, 2, 6, 3,
   24, 2, 11, 2, 4, 4, 1, 2, 2, 2, 4, 43, 2, 8, 1, 40, 5, 1, 1, 1, 3, 5, 5, 3, 4, 1, 3, 5, 1, 1,
   256, 1, 515, 4, 3, 2, 1, 2, 14, 2, 2, 10, 43, 8, 427, 10, 2, 8, 52797, 6, 5, 2, 162, 2, 18, 1, 1,
   1, 28, 1, 1, 1, 29, 1, 1, 1, 1, 2, 1, 2, 55159, 1, 57, 1, 57, 1, 57, 1, 57, 1]

/-- Selectors of the shape of the character before them. -/
def variationSelectors : CharSet := .ofGaps
  [6155, 3, 1, 1, 58864, 16, 852720, 240]

/-- Code points that are kept for internal use. -/
def noncharacters : CharSet := .ofGaps
  [64976, 32, 526, 2, 65534, 2, 65534, 2, 65534, 2, 65534, 2, 65534, 2, 65534, 2, 65534, 2, 65534,
   2, 65534, 2, 65534, 2, 65534, 2, 65534, 2, 65534, 2, 65534, 2, 65534, 2, 65534, 2]

/-- Marks that are drawn inside others. -/
def modifierMarks : CharSet := .ofGaps
  [1620, 2, 2, 1, 131, 1, 6, 1, 3, 2, 481, 2, 1, 3, 3, 1, 31, 1]

/-- Characters without a shape that are no layout characters. -/
def otherIgnorables : CharSet := .ofGaps
  [847, 1, 3599, 2, 1619, 2, 2223, 1, 4350, 1, 52795, 1, 79, 9, 851975, 1, 1, 30, 96, 128, 240,
   3600]

/-- Layout characters that are shown. -/
def visibleFormats : CharSet := .ofGaps
  [1536, 6, 215, 1, 49, 1, 384, 2, 80, 1, 63254, 3, 4289, 1, 15, 1, 9058, 16]

/-- Characters that are not shown where they are not understood. -/
def defaultIgnorables : CharSet := (formats \ visibleFormats) ∪ variationSelectors ∪ otherIgnorables

end FeatureFlags.Text
