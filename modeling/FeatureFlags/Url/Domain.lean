import FeatureFlags.Text.CaseFolding
import FeatureFlags.Url.Address
import FeatureFlags.Url.Domain.Direction
import FeatureFlags.Url.Domain.Equivalent
import FeatureFlags.Url.Domain.Joining
import FeatureFlags.Url.Domain.Punycode

/-!
# Domains

Domains are written in ASCII. Letters lose their case, some characters stand for others or for
nothing, and a label with other characters is written in digits behind `xn--`. A label that is
written so already has to stand for one that could have been written so.
-/
namespace FeatureFlags.Url

/-! ## Characters -/

/-- Characters that no domain holds. -/
def isForbiddenInDomain (c : Char) : Bool :=
  c.toNat ≤ 0x20 || c.toNat = 0x7f || "%#/:<>?@[\\]^|".toList.contains c

/-- Characters that stand for nothing: hyphens that are not shown, fillers and selectors. -/
def ignoredCharacters : CharSet := .ofRanges
  [(0xad, 0xad), (0x34f, 0x34f), (0x115f, 0x1160), (0x17b4, 0x17b5), (0x180b, 0x180f),
   (0x200b, 0x200b), (0x2060, 0x2064), (0x206a, 0x206f), (0x3164, 0x3164), (0xfe00, 0xfe0f),
   (0xfeff, 0xfeff), (0xffa0, 0xffa0), (0x1bca0, 0x1bca3), (0x1d173, 0x1d17a),
   (0xe0100, 0xe01ef)]

/-- Characters that a domain holds neither as they are nor as others: blanks and what looks like
one, layout characters, and numbers with a full stop. -/
def unwrittenCharacters : CharSet := .ofGaps
  [160, 1, 7, 1, 6, 1, 4, 1, 3, 1, 543, 6, 156, 1, 9, 2, 634, 6, 22, 1, 192, 1, 49, 1, 384, 2, 80,
   1, 3485, 1, 2364, 1, 1, 3, 11, 3, 13, 3, 13, 2, 14, 2, 1, 11, 3, 2, 7, 1, 12, 3, 3, 6, 14, 1, 32,
   1, 6, 4, 1054, 20, 2900, 17, 154, 2, 338, 1, 466, 1, 4, 1, 16, 1, 51333, 6, 406, 2, 22, 1, 6, 1,
   22, 1, 24, 4, 5, 1, 29, 1, 1, 1, 1, 1, 1, 1, 1, 1, 1, 1, 1, 1, 1, 1, 356, 1, 21, 5, 4287, 1, 15,
   1, 9058, 16, 48320, 1, 790272, 1, 30, 96]

/-- All characters outside ASCII of which a domain can make nothing. -/
def barredCharacters : CharSet :=
  (Text.unassigned \ (Text.recentCharacters ∪ Text.upcomingCharacters)) ∪
    Text.privateCharacters ∪ (Text.controls \ .ascii) ∪ Text.lineSeparators ∪
    Text.paragraphSeparators ∪ unwrittenCharacters

def finalSigma : Char := 'ς'

/-- The text that a domain holds for a character: its form without case, or what is equivalent to
that. A sigma at the end of a word is kept apart from others. -/
def normalChar? (c : Char) : Option (List Char) :=
  if ignoredCharacters.contains c then some []
  else if barredCharacters.contains c then none
  else if c = finalSigma then some [c]
  else some (equivalent (Text.foldChar c))

/-- A domain with all characters in the form in which it holds them. -/
def normalDomain? (s : List Char) : Option (List Char) :=
  (s.mapM normalChar?).map fun texts => Text.compose texts.flatten

/-! ## Labels -/

/-- A label as it is read, and as it is written in ASCII. -/
structure Label where
  shown : List Char
  written : List Char

/-- What stands in front of the digits of a label. -/
def encodedLead : List Char := ['x', 'n', '-', '-']

/-- The most characters of a label that are not all ASCII. -/
def maxShown : Nat := 1000

/-- The most characters behind the lead of a label that is to be decoded. -/
def maxEncoded : Nat := 2000

def isAscii (s : List Char) : Bool := s.all (·.toNat < 128)

/-- A label of a domain, which may be encoded already. -/
def label? (s : List Char) : Option Label :=
  if encodedLead.isPrefixOf s then do
    let encoded := s.drop encodedLead.length
    let shown ← decodeLabel? encoded
    if encoded.length ≤ maxEncoded ∧ normalDomain? shown = some shown then return ⟨shown, s⟩
    else none
  else if isAscii s then some ⟨s, s⟩
  else some ⟨s, encodedLead ++ punycode s⟩

/-- A label does not start with a mark, holds joiners only where they have an effect, and is short
unless it is ASCII. -/
def Label.isWellFormed (l : Label) : Bool :=
  !l.shown.head?.any Text.isMark && joinersFit [] l.shown &&
    (isAscii l.shown || l.shown.length ≤ maxShown)

/-- A domain in ASCII, unless it holds what no domain does. -/
def domain? (s : List Char) : Option (List Char) := do
  let normal ← normalDomain? s
  let labels ← (Text.splitAt '.' normal).mapM label?
  let ascii := joinChars '.' (labels.map (·.written))
  if !ascii.isEmpty && !ascii.any isForbiddenInDomain && labels.all (·.isWellFormed) &&
      directionsAgree (labels.map (·.shown)) then
    return ascii
  else none

end FeatureFlags.Url
