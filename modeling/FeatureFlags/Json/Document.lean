import FeatureFlags.Json.Basic
import FeatureFlags.Text.Hexadecimal
import FeatureFlags.Text.Symbols

/-!
# JSON documents

A document is what the grammar of JSON finds in a text, before anyone asks what it means. Members
stay in the order of the text with their duplicates, and a string or number that has no value
(unpaired surrogates, undecodable bytes, a magnitude beyond every double) is kept as such: only a
reader that needs the value refuses it.

The readers take the symbols that are left and give what they found with the symbols after it.
Recursion is bounded by fuel; `ofSymbols?` provides more than any text can use.
-/
namespace FeatureFlags

open Text (Symbol)

inductive Document where
  | null
  | bool (value : Bool)
  | number (value : Option Json.Number)
  | text (value : Option String)
  | array (items : List Document)
  | object (members : List (Option String × Document))

namespace Document

def isBlank (c : Char) : Bool := c = ' ' || c = '\t' || c = '\n' || c = '\r'

def skipBlanks : List Symbol → List Symbol
  | some c :: rest => if isBlank c then skipBlanks rest else some c :: rest
  | s => s

/-- What follows a word, if the symbols start with it. -/
def afterWord? : List Char → List Symbol → Option (List Symbol)
  | [], s => some s
  | c :: word, some d :: rest => if c = d then afterWord? word rest else none
  | _ :: _, _ => none

/-! ## Strings -/

/-- A part of a string: a character, one of the code units that only mean a character in pairs, or
a byte that means nothing. -/
inductive Piece where
  | char (c : Char)
  | surrogate (unit : Nat)
  | undecodable

def Piece.ofUnit (unit : Nat) : Piece :=
  if 0xD800 ≤ unit ∧ unit < 0xE000 then .surrogate unit else .char (Char.ofNat unit)

/-- The characters of a string: a leading unit needs a trailing unit right behind it. -/
def Piece.assemble? : List Piece → Option (List Char)
  | [] => some []
  | .char c :: rest => (assemble? rest).map (c :: ·)
  | .surrogate lead :: .surrogate trail :: rest =>
    if lead < 0xDC00 ∧ 0xDC00 ≤ trail then
      (assemble? rest).map (Char.ofNat (0x10000 + (lead - 0xD800) * 0x400 + (trail - 0xDC00)) :: ·)
    else none
  | .surrogate _ :: _ | .undecodable :: _ => none

/-- The character of an escape of one letter. -/
def unescape? : Char → Option Char
  | '"' => some '"'
  | '\\' => some '\\'
  | '/' => some '/'
  | 'b' => some (Char.ofNat 8)
  | 'f' => some (Char.ofNat 12)
  | 'n' => some '\n'
  | 'r' => some '\r'
  | 't' => some '\t'
  | _ => none

def unit? (a b c d : Symbol) : Option Nat := do
  let a ← Text.hexValue? (← a)
  let b ← Text.hexValue? (← b)
  let c ← Text.hexValue? (← c)
  let d ← Text.hexValue? (← d)
  return ((a * 16 + b) * 16 + c) * 16 + d

/-- The parts of a string up to its closing quote. Characters below the blank have to be escaped. -/
def readPieces? : List Symbol → Option (List Piece × List Symbol)
  | some '"' :: rest => some ([], rest)
  | some '\\' :: some 'u' :: a :: b :: c :: d :: rest => do
    let unit ← unit? a b c d
    let (pieces, rest) ← readPieces? rest
    return (.ofUnit unit :: pieces, rest)
  | some '\\' :: some e :: rest => do
    let c ← unescape? e
    let (pieces, rest) ← readPieces? rest
    return (.char c :: pieces, rest)
  | some c :: rest =>
    if c.toNat < 32 ∨ c = '\\' then none
    else do
      let (pieces, rest) ← readPieces? rest
      return (.char c :: pieces, rest)
  | none :: rest => do
    let (pieces, rest) ← readPieces? rest
    return (.undecodable :: pieces, rest)
  | [] => none

/-- A string behind its opening quote. -/
def readText? (s : List Symbol) : Option (Option String × List Symbol) := do
  let (pieces, rest) ← readPieces? s
  return ((Piece.assemble? pieces).map String.ofList, rest)

/-! ## Numbers -/

/-- A number as it is written: digits before and after the point, and a power of ten. -/
structure Numeral where
  negative : Bool
  whole : List Nat
  fraction : List Nat
  exponent : Int
  /-- Neither fraction nor exponent is written. -/
  integral : Bool

def ofDigits (digits : List Nat) : Nat := digits.foldl (fun n d => 10 * n + d) 0

/-- Integers that fit 64 bits stay integers, except a negative zero; all else is rounded, and has
no value if that overflows. -/
def Numeral.value? (n : Numeral) : Option Json.Number :=
  let magnitude := ofDigits n.whole
  let integer? : Option Json.Number :=
    if n.integral ∧ ¬(n.negative ∧ magnitude = 0) then
      Json.Number.ofInt? (if n.negative then -magnitude else magnitude)
    else none
  match integer? with
  | some i => some i
  | none => Json.Number.ofDouble? <| Double.ofDecimal n.negative
      ⟨ofDigits (n.whole ++ n.fraction), n.exponent - n.fraction.length⟩

def digit? (c : Char) : Option Nat :=
  if '0' ≤ c ∧ c ≤ '9' then some (c.toNat - '0'.toNat) else none

/-- The digits at the front. -/
def readDigits : List Symbol → List Nat × List Symbol
  | some c :: rest =>
    match digit? c with
    | some d => (d :: (readDigits rest).1, (readDigits rest).2)
    | none => ([], some c :: rest)
  | s => ([], s)

/-- Digits of which there has to be one. -/
def readDigits? (s : List Symbol) : Option (List Nat × List Symbol) :=
  match readDigits s with
  | ([], _) => none
  | r => some r

def readFraction? : List Symbol → Option (List Nat × List Symbol)
  | some '.' :: rest => readDigits? rest
  | s => some ([], s)

def readSign : List Symbol → Bool × List Symbol
  | some '-' :: rest => (true, rest)
  | some '+' :: rest => (false, rest)
  | s => (false, s)

/-- An exponent, or none if no mark of one follows. -/
def readExponent? : List Symbol → Option (Option Int × List Symbol)
  | some c :: rest =>
    if c = 'e' ∨ c = 'E' then do
      let (negative, rest) := readSign rest
      let (digits, rest) ← readDigits? rest
      let n : Int := ofDigits digits
      return (some (if negative then -n else n), rest)
    else some (none, some c :: rest)
  | s => some (none, s)

/-- The digits before the point: more than one only if the first is not zero. -/
def readWhole? (s : List Symbol) : Option (List Nat × List Symbol) :=
  match readDigits? s with
  | some (0 :: _ :: _, _) => none
  | r => r

def readNumeral? (s : List Symbol) : Option (Numeral × List Symbol) := do
  let (negative, s) := match s with
    | some '-' :: rest => (true, rest)
    | _ => (false, s)
  let (whole, s) ← readWhole? s
  let (fraction, s) ← readFraction? s
  let (exponent, s) ← readExponent? s
  return (⟨negative, whole, fraction, exponent.getD 0, fraction.isEmpty && exponent.isNone⟩, s)

/-! ## Values -/

mutual

def read? : Nat → List Symbol → Option (Document × List Symbol)
  | 0, _ => none
  | fuel + 1, s =>
    match skipBlanks s with
    | some 'n' :: rest => (afterWord? ['u', 'l', 'l'] rest).map (.null, ·)
    | some 't' :: rest => (afterWord? ['r', 'u', 'e'] rest).map (.bool true, ·)
    | some 'f' :: rest => (afterWord? ['a', 'l', 's', 'e'] rest).map (.bool false, ·)
    | some '"' :: rest => (readText? rest).map fun r => (.text r.1, r.2)
    | some '[' :: rest =>
      match skipBlanks rest with
      | some ']' :: rest => some (.array [], rest)
      | rest => (readItems? fuel rest).map fun r => (.array r.1, r.2)
    | some '{' :: rest =>
      match skipBlanks rest with
      | some '}' :: rest => some (.object [], rest)
      | rest => (readMembers? fuel rest).map fun r => (.object r.1, r.2)
    | s => (readNumeral? s).map fun r => (.number r.1.value?, r.2)

/-- One item or more, up to the closing bracket. -/
def readItems? : Nat → List Symbol → Option (List Document × List Symbol)
  | 0, _ => none
  | fuel + 1, s => do
    let (item, rest) ← read? fuel s
    match skipBlanks rest with
    | some ',' :: rest =>
      let (items, rest) ← readItems? fuel rest
      return (item :: items, rest)
    | some ']' :: rest => return ([item], rest)
    | _ => none

/-- One member or more, up to the closing brace. -/
def readMembers? : Nat → List Symbol → Option (List (Option String × Document) × List Symbol)
  | 0, _ => none
  | fuel + 1, s =>
    match skipBlanks s with
    | some '"' :: rest => do
      let (name, rest) ← readText? rest
      match skipBlanks rest with
      | some ':' :: rest =>
        let (value, rest) ← read? fuel rest
        match skipBlanks rest with
        | some ',' :: rest =>
          let (members, rest) ← readMembers? fuel rest
          return ((name, value) :: members, rest)
        | some '}' :: rest => return ([(name, value)], rest)
        | _ => none
      | _ => none
    | _ => none

end

/-- The document that a whole text holds. A value takes at most two steps for each of its
symbols. -/
def ofSymbols? (s : List Symbol) : Option Document := do
  let (document, rest) ← read? (2 * s.length + 1) s
  if (skipBlanks rest).isEmpty then some document else none

def ofText? (s : String) : Option Document := ofSymbols? (Text.symbolsOfText s)

def ofBytes? (bytes : ByteArray) : Option Document := ofSymbols? (Text.symbols bytes)

end Document

end FeatureFlags
