import FeatureFlags.Text.Hexadecimal

/-!
# Percent-encoding

A character that may not stand for itself in a part of a URL is written as its bytes, each behind a
percent sign. What may stand for itself is decided by the part; no part takes controls or characters
outside ASCII.
-/
namespace FeatureFlags.Url

/-- Controls and everything outside ASCII. -/
def isUnsafe (c : Char) : Bool := c.toNat < 0x20 || 0x7f ≤ c.toNat

/-- The parts of a URL, each with characters of its own that are encoded beside the unsafe ones. -/
inductive Part where
  | plain
  | query (special : Bool)
  | fragment
  | path
  | segment (special : Bool)
  | userInfo

def fragmentReserved : List Char := [' ', '"', '<', '>', '\x60']

def pathReserved : List Char := fragmentReserved ++ ['#', '?', '{', '}']

def Part.reserved : Part → List Char
  | plain => []
  | query special => [' ', '"', '#', '<', '>'] ++ if special then ['\x27'] else []
  | fragment => fragmentReserved
  | path => pathReserved
  | segment special => pathReserved ++ ['/', '%'] ++ if special then ['\\'] else []
  | userInfo => pathReserved ++ ['/', ':', ';', '=', '@', '[', '\\', ']', '^', '|']

def Part.encodes (p : Part) (c : Char) : Bool := isUnsafe c || p.reserved.contains c

def upperHexDigit (n : Nat) : Char := (Text.hexDigit n).toUpper

def encodeByte (b : UInt8) : List Char :=
  ['%', upperHexDigit (b.toNat / 16), upperHexDigit (b.toNat % 16)]

def Part.encodeChar (p : Part) (c : Char) : List Char :=
  if p.encodes c then (String.utf8EncodeChar c).flatMap encodeByte else [c]

def Part.encode (p : Part) (s : List Char) : List Char := s.flatMap p.encodeChar

/-- The bytes of a text in which percent signs before two hexadecimal digits stand for a byte. -/
def percentDecode : List Char → List UInt8
  | '%' :: a :: b :: rest =>
    match Text.hexValue? a, Text.hexValue? b with
    | some high, some low => UInt8.ofNat (16 * high + low) :: percentDecode rest
    | _, _ => 37 :: percentDecode (a :: b :: rest)
  | c :: rest => String.utf8EncodeChar c ++ percentDecode rest
  | [] => []

end FeatureFlags.Url
