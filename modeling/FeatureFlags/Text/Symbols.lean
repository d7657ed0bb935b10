/-!
# Symbols

What bytes hold when they are read as text: a character for every well-formed sequence of UTF-8,
and nothing for each byte that belongs to none. A reader that only skips a stretch of text can pass
over such bytes, and every other reader can refuse them.
-/
namespace FeatureFlags.Text

/-- A character, or a byte that encodes none. -/
abbrev Symbol := Option Char

/-- Symbols from a position on; an undecodable byte is passed alone. -/
def symbolsFrom (bytes : ByteArray) (i : Nat) : List Symbol :=
  if i < bytes.size then
    match bytes.utf8DecodeChar? i with
    | some c => some c :: symbolsFrom bytes (i + c.utf8Size)
    | none => none :: symbolsFrom bytes (i + 1)
  else []
termination_by bytes.size - i
decreasing_by
  · have := c.utf8Size_pos; omega
  · omega

def symbols (bytes : ByteArray) : List Symbol := symbolsFrom bytes 0

def symbolsOfText (s : String) : List Symbol := s.toList.map some

end FeatureFlags.Text
