import FeatureFlags.Regex.Basic
import FeatureFlags.Regex.Cursor
import FeatureFlags.Regex.Property
import FeatureFlags.Text.CharSet
import FeatureFlags.Text.Hexadecimal

/-!
# Escapes

What stands behind a backslash: a character by its number or by a letter, a set by its name, or a
condition. There are no references to earlier matches.
-/
namespace FeatureFlags.Regex

open Reader

inductive Escaped where
  | literal (c : Char)
  | set (s : CharSet)
  | look (l : Look)

def isMeta (c : Char) : Bool := "\\.+*?()|[]{}^$#&-~".toList.contains c

/-- ASCII characters that may be escaped without need. -/
def isEscapable (c : Char) : Bool :=
  c.toNat < 128 && !c.isAlphanum && c ≠ '<' && c ≠ '>'

/-! ## Characters -/

def hexNumber (digits : List Char) : Reader Char := do
  match digits.foldlM (fun n c => (Text.hexValue? c).map (16 * n + ·)) 0 with
  | some n => if digits.isEmpty then fail else (Text.charOfCode? n : Option Char)
  | none => fail

/-- A character by its number: in braces, or with a fixed count of digits. -/
def numberEscape (count : Nat) : Reader Char := do
  skipSpace
  if ← accept "\x7b" then
    skipSpace
    let digits ← takeSpaced (· ≠ '}')
    expect "\x7d"
    hexNumber digits
  else
    let digits ← (List.replicate count ()).mapM fun _ => nextSpaced
    hexNumber digits

/-- A character by two digits. Taken over bytes it has to be an ASCII one, but not in braces. -/
def byteEscape : Reader Char := do
  skipSpace
  let braced := (← peek?) == some '{'
  let c ← numberEscape 2
  if (← flags).unicode || braced || c.toNat < 128 then return c else fail

/-! ## Conditions -/

def asciiWord : CharSet := .ofRanges [(0x30, 0x39), (0x41, 0x5a), (0x5f, 0x5f), (0x61, 0x7a)]

/-- The characters that make up words. -/
def wordSet : Reader CharSet := return if (← flags).unicode then Text.wordCharacters else asciiWord

/-- A boundary of words, perhaps with its kind in braces. Braces that start with something else than
a name are left for a repetition. -/
def boundaryEscape : Reader Look := do
  let sort ← wordSet
  let isName (c : Char) : Bool := c.isAlpha || c = '-'
  let start ← get
  if ← accept "\x7b" then
    skipSpace
    match ← peek? with
    | none => fail
    | some c =>
      if isName c then
        let kind ← takeSpaced isName
        expect "\x7d"
        match String.ofList kind with
        | "start" => return .wordStart sort
        | "end" => return .wordEnd sort
        | "start-half" => return .noWordBefore sort
        | "end-half" => return .noWordAfter sort
        | _ => fail
      else
        restore start
        return .boundary sort
  else return .boundary sort

/-! ## Sets -/

def asciiDigits : CharSet := .ofRange 0x30 0x39

def asciiSpaces : CharSet := .ofRanges [(0x9, 0xd), (0x20, 0x20)]

/-- The complement of a set if it is asked for; taken over bytes it would reach beyond text. -/
def negate (negated : Bool) (s : CharSet) : Reader CharSet := do
  if !negated then return s
  else if (← flags).unicode then return s.compl
  else fail

/-- The escape of a class of digits, blanks or word characters. -/
def classEscape (unicodeSet asciiSet : CharSet) (negated : Bool) : Reader Escaped :=
  return .set (← negate negated (if (← flags).unicode then unicodeSet else asciiSet))

/-- What stands before and after the first place of a word. -/
def splitAtWord? (word : List Char) : List Char → Option (List Char × List Char)
  | [] => none
  | c :: rest =>
    if word.isPrefixOf (c :: rest) then some ([], (c :: rest).drop word.length)
    else (splitAtWord? word rest).map fun p => (c :: p.1, p.2)

/-- The set that a text between braces names, and whether its complement is meant: a name, or a
property and the value that it has or does not have. -/
def namedSet? (s : List Char) : Option (CharSet × Bool) :=
  match splitAtWord? ['!', '='] s, splitAtWord? [':'] s, splitAtWord? ['='] s with
  | some (name, value), _, _ => (ofValue? name value).map (·, true)
  | none, some (name, value), _ | none, none, some (name, value) =>
    (ofValue? name value).map (·, false)
  | none, none, none => (ofName? s).map (·, false)

/-- The escape of a set by its name: one letter, or a name in braces. Case is left aside before the
complement is taken. -/
def nameEscape (negated : Bool) : Reader CharSet := do
  skipSpace
  let name ← match ← nextSpaced with
    | '{' =>
      let name ← takeSpaced (· ≠ '}')
      expect "\x7d"
      pure name
    | c => pure [c]
  let f ← flags
  match f.unicode, namedSet? name with
  | true, some (s, other) => return if negated != other then (f.fold s).compl else f.fold s
  | _, _ => fail

/-! ## All escapes -/

/-- An escape behind its backslash. -/
def escape : Reader Escaped := do
  let c ← next
  match c with
  | 'p' => return .set (← nameEscape false)
  | 'P' => return .set (← nameEscape true)
  | 'x' => return .literal (← byteEscape)
  | 'u' => return .literal (← numberEscape 4)
  | 'U' => return .literal (← numberEscape 8)
  | 'd' => classEscape Text.decimalNumbers asciiDigits false
  | 'D' => classEscape Text.decimalNumbers asciiDigits true
  | 's' => classEscape Text.whiteSpace asciiSpaces false
  | 'S' => classEscape Text.whiteSpace asciiSpaces true
  | 'w' => classEscape Text.wordCharacters asciiWord false
  | 'W' => classEscape Text.wordCharacters asciiWord true
  | 'a' => return .literal (Char.ofNat 7)
  | 'f' => return .literal (Char.ofNat 12)
  | 't' => return .literal '\t'
  | 'n' => return .literal '\n'
  | 'r' => return .literal '\r'
  | 'v' => return .literal (Char.ofNat 11)
  | 'A' => return .look .textStart
  | 'z' => return .look .textEnd
  | 'b' => return .look (← boundaryEscape)
  | 'B' => return .look (.noBoundary (← wordSet))
  | '<' => return .look (.wordStart (← wordSet))
  | '>' => return .look (.wordEnd (← wordSet))
  | _ => if isMeta c || isEscapable c then return .literal c else fail

end FeatureFlags.Regex
