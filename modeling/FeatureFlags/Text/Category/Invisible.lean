import FeatureFlags.Text.CharSet

/-!
# Separators, controls and private use

Each table gives in turn how many code points are left out and how many are taken.
-/
namespace FeatureFlags.Text

/-- Blanks of various widths. -/
def spaceSeparators : CharSet := .ofGaps
  [32, 1, 127, 1, 5599, 1, 2431, 11, 36, 1, 47, 1, 4000, 1]

/-- Separators of lines. -/
def lineSeparators : CharSet := .ofGaps
  [8232, 1]

/-- Separators of paragraphs. -/
def paragraphSeparators : CharSet := .ofGaps
  [8233, 1]

/-- Control codes. -/
def controls : CharSet := .ofGaps
  [0, 32, 95, 33]

/-- Characters that only steer the layout. -/
def formats : CharSet := .ofGaps
  [173, 1, 1362, 6, 22, 1, 192, 1, 49, 1, 384, 2, 80, 1, 3883, 1, 2044, 5, 26, 5, 49, 5, 1, 10,
   56975, 1, 249, 3, 4289, 1, 15, 1, 9058, 16, 34912, 4, 5327, 8, 798342, 1, 30, 96]

/-- Characters without an agreed meaning. -/
def privateCharacters : CharSet := .ofGaps
  [57344, 6400, 919296, 65534, 2, 65534]

end FeatureFlags.Text
