import FeatureFlags.Double.Text
import FeatureFlags.Json.Basic
import FeatureFlags.Text.Hexadecimal

/-!
# JSON text

Compact text: no blanks, members in the order in which they are held, characters outside ASCII as
they are. Only a quote, a backslash and the characters below the blank are escaped.
-/
namespace FeatureFlags.Json

/-- The short escapes: backspace, tab, line feed, form feed, carriage return. -/
def shortEscape? (c : Char) : Option Char :=
  if c = '"' ∨ c = '\\' then some c
  else match c.toNat with
    | 8 => some 'b'
    | 9 => some 't'
    | 10 => some 'n'
    | 12 => some 'f'
    | 13 => some 'r'
    | _ => none

def escape (c : Char) : List Char :=
  match shortEscape? c with
  | some e => ['\\', e]
  | none =>
    if c.toNat < 32 then
      ['\\', 'u', '0', '0', Text.hexDigit (c.toNat / 16), Text.hexDigit (c.toNat % 16)]
    else [c]

def textChars (s : String) : List Char := '"' :: (s.toList.flatMap escape ++ ['"'])

def intChars (i : Int) : List Char :=
  if i < 0 then '-' :: Nat.toDigits 10 i.natAbs else Nat.toDigits 10 i.natAbs

def Number.chars : Number → List Char
  | .int i => intChars i.toInt
  | .large n _ => Nat.toDigits 10 n.toNat
  | .float x _ => x.chars

/-- Items between brackets, separated by commas. -/
def enclose (left right : Char) (items : List (List Char)) : List Char :=
  left :: (List.intercalate [','] items ++ [right])

/-- A member from the text of its value. -/
def memberChars (name : String) (value : List Char) : List Char := textChars name ++ ':' :: value

/-- A record of the fields that are there. -/
def recordChars (fields : List (String × Option (List Char))) : List Char :=
  enclose '{' '}' (fields.filterMap fun f => f.2.map (memberChars f.1))

mutual

def chars : Json → List Char
  | .null => ['n', 'u', 'l', 'l']
  | .bool true => ['t', 'r', 'u', 'e']
  | .bool false => ['f', 'a', 'l', 's', 'e']
  | .number n => n.chars
  | .text s => textChars s
  | .array items => enclose '[' ']' (itemsChars items)
  | .object members => enclose '{' '}' (membersChars members)

def itemsChars : List Json → List (List Char)
  | [] => []
  | item :: rest => chars item :: itemsChars rest

def membersChars : List (String × Json) → List (List Char)
  | [] => []
  | (name, value) :: rest => memberChars name (chars value) :: membersChars rest

end

/-- The text of a value. -/
def render (j : Json) : String := String.ofList j.chars

end FeatureFlags.Json
