import FeatureFlags.Text.CharSet

/-!
# White space and pieces

White space is what has the property White_Space; a text is trimmed of it at its ends. A text is cut
at every separator, or at the first one only.
-/
namespace FeatureFlags.Text

def whiteSpace : CharSet :=
  .ofGaps [9, 5, 18, 1, 100, 1, 26, 1, 5599, 1, 2431, 11, 29, 2, 5, 1, 47, 1, 4000, 1]

def isBlank (c : Char) : Bool := whiteSpace.contains c

def trimLeft (s : List Char) : List Char := s.dropWhile isBlank

def trimRight (s : List Char) : List Char := (s.reverse.dropWhile isBlank).reverse

/-- A text without the white space at its ends. -/
def trim (s : List Char) : List Char := trimRight (trimLeft s)

/-- A text of white space alone. -/
def isAllBlank (s : List Char) : Bool := s.all isBlank

/-! ## Pieces -/

/-- The pieces between separators; there is one more than there are separators. -/
def splitAt (separator : Char) : List Char → List (List Char)
  | [] => [[]]
  | c :: rest =>
    if c = separator then [] :: splitAt separator rest
    else match splitAt separator rest with
      | [] => [[c]]
      | piece :: pieces => (c :: piece) :: pieces

/-- What stands before and after the first separator, if there is one. -/
def splitOnce (separator : Char) : List Char → Option (List Char × List Char)
  | [] => none
  | c :: rest =>
    if c = separator then some ([], rest)
    else (splitOnce separator rest).map fun p => (c :: p.1, p.2)

theorem splitAt_ne_nil (separator : Char) (s : List Char) : splitAt separator s ≠ [] := by
  cases s with
  | nil => simp [splitAt]
  | cons c rest =>
    simp only [splitAt]
    split
    · simp
    · split <;> simp

end FeatureFlags.Text
