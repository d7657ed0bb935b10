import FeatureFlags.Text.Hexadecimal
import FeatureFlags.Text.Recent

/-!
# Quoted text

How a text is shown inside a message: between double quotes, with short escapes for the quote, the
backslash and four controls, and code points in braces for whatever else is not printable. A
character is printable if it is the blank or one that is seen, and does not attach to the character
before it. Fillers count as seen among the letters, but nothing is seen of them.
-/
namespace FeatureFlags.Text

/-- The sound marks of half width, which extend a grapheme but take a place of their own. -/
def soundMarks : CharSet := .ofRange 0xff9e 0xff9f

/-- Characters that would attach to the character before. -/
def attachedCharacters : CharSet := (graphemeExtenders ∪ recentExtenders) \ soundMarks

def printableCharacters : CharSet :=
  (visibleCharacters ∪ recentCharacters ∪ .single ' ') \ (attachedCharacters ∪ defaultIgnorables)

def isPrintable (c : Char) : Bool := printableCharacters.contains c

def quoteChar (c : Char) : List Char :=
  if c = '"' ∨ c = '\\' then ['\\', c]
  else match c.toNat with
    | 0 => ['\\', '0']
    | 9 => ['\\', 't']
    | 10 => ['\\', 'n']
    | 13 => ['\\', 'r']
    | n => if isPrintable c then [c] else ['\\', 'u', '{'] ++ hexChars n ++ ['}']

def quote (s : String) : String := String.ofList ('"' :: (s.toList.flatMap quoteChar ++ ['"']))

end FeatureFlags.Text
