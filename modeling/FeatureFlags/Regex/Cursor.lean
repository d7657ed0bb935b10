import FeatureFlags.Text.CaseFolding
import FeatureFlags.Text.Pieces

/-!
# Reading a pattern character by character

What is left of a pattern, the switches in force, and the steps from which readers are made. Where
a switch allows white space and comments in a pattern, a reader passes over them.
-/
namespace FeatureFlags.Regex

/-- The switches of a pattern. -/
structure Flags where
  anyCase : Bool := false
  multiLine : Bool := false
  dotAll : Bool := false
  unicode : Bool := true
  blanks : Bool := false
  returns : Bool := false
  swapGreed : Bool := false

/-- A set with all characters that differ in case only, if case does not count. Taken over bytes,
only ASCII letters have a case. -/
def Flags.fold (f : Flags) (s : CharSet) : CharSet :=
  if !f.anyCase then s else if f.unicode then s.anyCase else s.anyCase ∩ .ascii

/-- What is left to read, with the switches in force, the names that groups have, and how many
groups there are so far. -/
structure Cursor where
  rest : List Char
  flags : Flags
  names : List (List Char)
  groups : Nat

abbrev Reader := StateT Cursor Option

namespace Reader

def fail : Reader α := fun _ => none

def flags : Reader Flags := return (← get).flags

def setFlags (f : Flags) : Reader Unit := modify fun c => { c with flags := f }

/-- Goes back to an earlier place. -/
def restore (c : Cursor) : Reader Unit := fun _ => some ((), c)

def peek? : Reader (Option Char) := return (← get).rest.head?

def second? : Reader (Option Char) := return ((← get).rest.drop 1).head?

def skip (n : Nat) : Reader Unit := modify fun c => { c with rest := c.rest.drop n }

def next : Reader Char := do
  match (← get).rest with
  | c :: rest => modify fun cursor => { cursor with rest }; return c
  | [] => fail

/-- Takes a word if it is next. -/
def accept (word : String) : Reader Bool := do
  if word.toList.isPrefixOf (← get).rest then skip word.length; return true
  else return false

def expect (word : String) : Reader Unit := do
  unless ← accept word do fail

/-- Characters as long as they meet a condition. -/
def takeWhile (p : Char → Bool) : Reader (List Char) := do
  let taken := (← get).rest.takeWhile p
  skip taken.length
  return taken

/-! ## White space -/

/-- What is left behind white space and comments, each up to the end of its line. The flag says
whether a comment is open. -/
def dropSpace : Bool → List Char → List Char
  | _, [] => []
  | true, c :: rest => dropSpace (c ≠ '\n') rest
  | false, c :: rest =>
    if c = '#' then dropSpace true rest
    else if Text.isBlank c then dropSpace false rest
    else c :: rest

/-- Passes over white space and comments where the switches allow them. -/
def skipSpace : Reader Unit := do
  if (← flags).blanks then modify fun c => { c with rest := dropSpace false c.rest }

/-- The next character, with what may be passed over behind it. -/
def nextSpaced : Reader Char := do
  let c ← next
  skipSpace
  return c

/-- Characters as long as they meet a condition, passing over white space behind each of them. -/
def takeSpaced (p : Char → Bool) : Reader (List Char) := do go (← get).rest.length
where
  go : Nat → Reader (List Char)
    | 0 => return []
    | left + 1 => do
      match ← peek? with
      | some c =>
        if p c then
          skip 1
          skipSpace
          return c :: (← go left)
        else return []
      | none => return []

end Reader

end FeatureFlags.Regex
