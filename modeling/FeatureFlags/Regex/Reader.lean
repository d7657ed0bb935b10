import FeatureFlags.Regex.Bracket
import FeatureFlags.Regex.Size.Basic
import FeatureFlags.Regex.Texts
import FeatureFlags.Text.Recent

/-!
# Reading patterns

The pattern language: alternatives, repetitions, groups with names and flags, bracketed classes with
set operations, and escapes. There is neither looking around nor back-reference. A malformed pattern
is nothing; the way in which it is malformed does not matter.

Reading is a descent over the characters that are left, bounded by fuel.
-/
namespace FeatureFlags.Regex

open Reader

/-! ## Repetitions -/

/-- A count, with white space around it. -/
def count : Reader Nat := do
  let _ ← takeWhile Text.isBlank
  let digits ← takeSpaced fun c => '0' ≤ c && c ≤ '9'
  let _ ← takeSpaced Text.isBlank
  let n := digits.foldl (fun n c => 10 * n + (c.toNat - '0'.toNat)) 0
  if digits.isEmpty || 0x100000000 ≤ n then fail else return n

/-- The upper bound of a repetition with a given lower one. There is none if nothing follows the
comma; without a comma the bounds are the same. -/
def upperBound (min : Nat) : Reader (Option Nat) := do
  if ← accept "," then
    skipSpace
    if (← peek?) == some '}' then return none
    let max ← count
    if min ≤ max then return some max else fail
  else return some min

/-- The bounds of a counted repetition, behind its opening brace. -/
def bounds : Reader (Nat × Option Nat) := do
  skipSpace
  let min ← count
  let max ← upperBound min
  expect "\x7d"
  skipSpace
  return (min, max)

/-- Whether a repetition takes as much as it can: a question mark says no, a switch the reverse. -/
def greed : Reader Bool := return (← accept "?") == (← flags).swapGreed

/-! ## Items -/

/-- An expression with the depth to which its pattern nests. -/
structure Nested where
  regex : Regex
  depth : Nat := 0

namespace Nested

def wrap (n : Nested) : Nested := { n with depth := n.depth + 1 }

/-- Expressions as one, a level deeper if they are two or more. -/
def join (build : List Regex → Regex) (parts : List Nested) (count : Nat) : Nested :=
  let joined : Nested := ⟨build (parts.map (·.regex)), (parts.map (·.depth)).foldl max 0⟩
  if count ≤ 1 then joined else joined.wrap

/-- The items of a branch one after the other; gaps count as items. -/
def sequence (items : List (Option Nested)) : Nested :=
  join Regex.sequence (items.filterMap id) items.length

/-- One of some branches. -/
def choice (parts : List Nested) : Nested := join Regex.choice parts parts.length

end Nested

def literal (f : Flags) (c : Char) : Regex :=
  if f.unicode || c.toNat < 128 then ofSet (f.fold (.single c)) else text [c]

def dot (f : Flags) : CharSet :=
  if f.dotAll then .any
  else .any \ if f.returns then .ofRanges [(10, 10), (13, 13)] else .single '\n'

def lineStart (f : Flags) : Look :=
  if f.multiLine then if f.returns then .returnLineStart else .lineStart else .textStart

def lineEnd (f : Flags) : Look :=
  if f.multiLine then if f.returns then .returnLineEnd else .lineEnd else .textEnd

/-- An expression of one character or escape. -/
def primitive : Reader Regex := do
  let f ← flags
  match ← next with
  | '\\' =>
    match ← escape with
    | .literal c => return literal f c
    | .set s => return ofSet s
    | .look l => return look l
  | '.' => if f.unicode then return set (dot f) else fail
  | '^' => return look (lineStart f)
  | '$' => return look (lineEnd f)
  | c => return literal f c

/-! ## Groups -/

def setFlag (f : Flags) (on : Bool) : Char → Option Flags
  | 'i' => some { f with anyCase := on }
  | 'm' => some { f with multiLine := on }
  | 's' => some { f with dotAll := on }
  | 'u' => some { f with unicode := on }
  | 'x' => some { f with blanks := on }
  | 'R' => some { f with returns := on }
  | 'U' => some { f with swapGreed := on }
  | _ => none

/-- Applies flag letters; those behind a hyphen are switched off. No letter stands twice, and
neither does the hyphen, which is followed by a letter. -/
def applyFlags (letters : List Char) (f : Flags) : Option Flags :=
  if letters.Nodup ∧ letters.getLast? ≠ some '-' then
    (letters.foldlM (fun (s : Flags × Bool) c =>
      if c = '-' then some (s.1, false) else (setFlag s.1 s.2 c).map (·, s.2)) (f, true)).map (·.1)
  else none

def isNameStart (c : Char) : Bool := c = '_' || Text.isAlphabetic c

def isNameChar (c : Char) : Bool :=
  isNameStart c || Text.isNumber c || c = '.' || c = '[' || c = ']'

/-- The name of a group, which no other group has. -/
def groupName : Reader Unit := do
  let name ← takeWhile (· ≠ '>')
  expect ">"
  match name with
  | [] => fail
  | c :: rest =>
    if isNameStart c && rest.all isNameChar && !(← get).names.contains name then
      modify fun cursor => { cursor with names := name :: cursor.names }
    else fail

/-- How a group begins. -/
inductive Opening where
  /-- What it holds is kept under a number. -/
  | numbered (index : Nat)
  | plain (flags : Flags)
  /-- Flags for the rest of the group around them. -/
  | flags

def numbered : Reader Opening := do
  let index := (← get).groups + 1
  modify fun cursor => { cursor with groups := index }
  return .numbered index

/-- The opening of a group behind its parenthesis. -/
def opening : Reader Opening := do
  skipSpace
  if ← ["?=", "?!", "?<=", "?<!"].anyM fun word => return word.toList.isPrefixOf (← get).rest then
    fail
  if (← accept "?P<") || (← accept "?<") then
    groupName
    numbered
  else if ← accept "?" then
    let letters ← takeWhile fun c => c ≠ ':' && c ≠ ')'
    match ← next, applyFlags letters (← flags) with
    | ')', some f => if letters.isEmpty then fail else setFlags f; return .flags
    | ':', some f => return .plain f
    | _, _ => fail
  else numbered

/-! ## Expressions -/

/-- Repeats the last item. -/
def repeatLast (items : List (Option Nested)) (min : Nat) (max : Option Nat) :
    Reader (List (Option Nested)) := do
  match items with
  | some n :: rest =>
    let greedy ← greed
    return some ⟨repeated n.regex min max greedy, n.depth + 1⟩ :: rest
  | _ => fail

mutual

/-- The branches up to the end of a group or of the pattern. -/
def readBranches : Nat → Reader (List Nested)
  | 0 => fail
  | fuel + 1 => do
    let first ← readBranch fuel []
    if ← accept "|" then return first :: (← readBranches fuel) else return [first]

/-- A group behind its opening, in which the given flags are in force. -/
def readGroup : Nat → Flags → Reader Nested
  | 0, _ => fail
  | fuel + 1, inner => do
    let outer ← flags
    setFlags inner
    let n := Nested.choice (← readBranches fuel)
    expect ")"
    setFlags outer
    return n.wrap

/-- One branch. The items stand in reverse; flags leave a gap, which nothing can repeat. -/
def readBranch : Nat → List (Option Nested) → Reader Nested
  | 0, _ => fail
  | fuel + 1, items => do
    skipSpace
    match ← peek? with
    | none | some '|' | some ')' => return Nested.sequence items.reverse
    | some '(' =>
      skip 1
      match ← opening with
      | .flags => readBranch fuel (none :: items)
      | .plain inner => readBranch fuel (some (← readGroup fuel inner) :: items)
      | .numbered index =>
        let n ← readGroup fuel (← flags)
        readBranch fuel (some { n with regex := group index n.regex } :: items)
    | some '[' =>
      skip 1
      let s ← bracketClass fuel
      readBranch fuel (some ⟨ofSet s.set, s.depth⟩ :: items)
    | some '?' => skip 1; readBranch fuel (← repeatLast items 0 (some 1))
    | some '*' => skip 1; readBranch fuel (← repeatLast items 0 none)
    | some '+' => skip 1; readBranch fuel (← repeatLast items 1 none)
    | some '{' =>
      skip 1
      let (min, max) ← bounds
      readBranch fuel (← repeatLast items min max)
    | some _ => readBranch fuel (some ⟨← primitive, 0⟩ :: items)

end

/-- An expression as it is matched. One that is too large is matched only if it says no more than
that a text holds one of some texts. -/
def settled? (r : Regex) : Option Regex :=
  if r.fits then some r else r.texts?.map oneOf

/-- The expression of a pattern, unless the pattern is malformed, too deep or too large. -/
def ofPattern? (pattern : String) : Option Regex :=
  let s := pattern.toList
  match (readBranches (3 * s.length + 3)).run ⟨s, {}, [], 0⟩ with
  | some (found, cursor) =>
    let n := Nested.choice found
    if cursor.rest.isEmpty ∧ n.depth ≤ maxDepth then settled? n.regex else none
  | none => none

end FeatureFlags.Regex
