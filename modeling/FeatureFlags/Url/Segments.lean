import FeatureFlags.Url.Reader

/-!
# Adding to the path of a URL

Texts are added as single segments: whatever would end a segment is encoded. Two texts cannot be
segments, since they name the current and the parent directory; they add nothing. Tabs and line
breaks do not count, and what is left without them is resolved as any segment is.
-/
namespace FeatureFlags.Url

/-- The path without an empty segment at its end, as it is where only a slash stands. -/
def withoutTrailingSlash (segments : List (List Char)) : List (List Char) :=
  if segments.getLast? = some [] then segments.dropLast else segments

/-- Adds a text behind the segments there are; a path that is a lone slash has none. -/
def pushSegment (special : Bool) (segments : List (List Char)) (text : String) :
    List (List Char) :=
  if text = "." ∨ text = ".." then segments
  else
    let counted := text.toList.filter fun c => !isIgnored c
    let front := if segments = [[]] then [] else segments
    addSegment true front ((Part.segment special).encode counted)

/-- A base URL with its path extended by segments. -/
def extend (u : Url) (texts : List String) : Url :=
  match u.path with
  | .plain _ => u
  | .segments segments =>
    let push := pushSegment u.isSpecial
    { u with path := .segments (texts.foldl push (withoutTrailingSlash segments)) }

end FeatureFlags.Url
