import FeatureFlags.Regex.Escape

/-!
# Bracketed classes

A class holds characters, ranges, escaped sets, named sets and further classes, and may be combined
with others by set operations. Each class and each operation nests one level deeper than what it is
made of, and so do two members or more.
-/
namespace FeatureFlags.Regex

open Reader

/-- Sets of ASCII characters by their names between colons. -/
def asciiClass? : String → Option CharSet
  | "alnum" => some (.ofRanges [(0x30, 0x39), (0x41, 0x5a), (0x61, 0x7a)])
  | "alpha" => some (.ofRanges [(0x41, 0x5a), (0x61, 0x7a)])
  | "ascii" => some .ascii
  | "blank" => some (.ofRanges [(9, 9), (32, 32)])
  | "cntrl" => some (.ofRanges [(0, 0x1f), (0x7f, 0x7f)])
  | "digit" => some asciiDigits
  | "graph" => some (.ofRange 0x21 0x7e)
  | "lower" => some (.ofRange 0x61 0x7a)
  | "print" => some (.ofRange 0x20 0x7e)
  | "punct" => some (.ofRanges [(0x21, 0x2f), (0x3a, 0x40), (0x5b, 0x60), (0x7b, 0x7e)])
  | "space" => some asciiSpaces
  | "upper" => some (.ofRange 0x41 0x5a)
  | "word" => some asciiWord
  | "xdigit" => some (.ofRanges [(0x30, 0x39), (0x41, 0x46), (0x61, 0x66)])
  | _ => none

/-- A set with the depth to which its notation nests. -/
structure NestedSet where
  set : CharSet
  depth : Nat := 0

/-- Members of a class: their union, how many they are, and the depth of the deepest. -/
structure Members where
  union : CharSet := .none
  count : Nat := 0
  depth : Nat := 0

namespace Members

def add (m : Members) (s : NestedSet) : Members :=
  ⟨m.union ∪ s.set, m.count + 1, max m.depth s.depth⟩

/-- The members as one set. -/
def toSet (m : Members) : NestedSet := ⟨m.union, if 2 ≤ m.count then m.depth + 1 else m.depth⟩

end Members

inductive Operation where
  | inter
  | diff
  | symmDiff

namespace Operation

def apply (a b : CharSet) : Operation → CharSet
  | inter => a ∩ b
  | diff => a \ b
  | symmDiff => a.symmDiff b

/-- Joins a set to the one that was read before, if an operation waits for it. -/
def join (f : Flags) (left : Option (NestedSet × Operation)) (right : NestedSet) : NestedSet :=
  match left with
  | none => right
  | some (left, operation) =>
    ⟨operation.apply (f.fold left.set) (f.fold right.set), max left.depth right.depth + 1⟩

end Operation

/-! ## Members -/

/-- A character, or a set by an escape. Taken over bytes, a character is within ASCII. -/
def classItem : Reader Escaped := do
  let item ← match ← next with
    | '\\' => escape
    | c => pure (.literal c)
  match item with
  | .literal c => if (← flags).unicode || c.toNat < 128 then return item else fail
  | _ => return item

/-- Whether a hyphen that is next stands between two characters: it is followed neither by the end
of the class nor by another hyphen. White space behind it does not count, nor does the first sign of
a comment; what the comment says does. -/
def joinsRange : Reader Bool := do
  match (← get).rest with
  | '-' :: rest =>
    let after := if (← flags).blanks then behindSpace rest else rest
    return after.head? ≠ some ']' && after.head? ≠ some '-'
  | _ => return false
where
  behindSpace (rest : List Char) : List Char :=
    match rest.dropWhile Text.isBlank with
    | '#' :: comment => comment.dropWhile Text.isBlank
    | rest => rest

/-- A character, a range or an escaped set. -/
def classRange : Reader CharSet := do
  let first ← classItem
  skipSpace
  if ← joinsRange then
    skip 1
    skipSpace
    match first, ← classItem with
    | .literal a, .literal b => if a ≤ b then return .ofRange a.toNat b.toNat else fail
    | _, _ => fail
  else
    match first with
    | .literal c => return .single c
    | .set s => return s
    | .look _ => fail

/-- The class of a name between colons, and whether its complement is meant, if one is next. -/
def namedClass? : Reader (Option (CharSet × Bool)) := do
  let start ← get
  if ← accept "[:" then
    let negated ← accept "^"
    let name ← takeWhile (· ≠ ':')
    let closed ← accept ":]"
    match closed, asciiClass? (String.ofList name) with
    | true, some s => return some (s, negated)
    | _, _ => restore start; return none
  else return none

/-- The hyphens, or else the closing bracket, that stand for themselves at the front of a class. -/
def classFront : Reader Members := do
  let hyphens ← takeSpaced (· = '-')
  if hyphens.isEmpty then
    if ← accept "]" then
      skipSpace
      return ({} : Members).add ⟨.single ']', 0⟩
  return hyphens.foldl (fun m c => m.add ⟨.single c, 0⟩) {}

/-! ## Classes -/

mutual

/-- A class behind its opening bracket. -/
def bracketClass : Nat → Reader NestedSet
  | 0 => fail
  | fuel + 1 => do
    skipSpace
    let negated ← accept "^"
    if negated then skipSpace
    let content ← classContent fuel none (← classFront)
    return ⟨← negate negated ((← flags).fold content.set), content.depth + 1⟩

/-- The members up to the closing bracket. -/
def classContent : Nat → Option (NestedSet × Operation) → Members → Reader NestedSet
  | 0, _, _ => fail
  | fuel + 1, left, members => do
    skipSpace
    let f ← flags
    let operate (operation : Operation) : Reader NestedSet := do
      skip 2
      classContent fuel (some (Operation.join f left members.toSet, operation)) {}
    match ← peek?, ← second? with
    | none, _ => fail
    | some ']', _ => skip 1; return Operation.join f left members.toSet
    | some '&', some '&' => operate .inter
    | some '-', some '-' => operate .diff
    | some '~', some '~' => operate .symmDiff
    | some '[', _ =>
      match ← namedClass? with
      | some (s, negated) =>
        let s ← negate negated (f.fold s)
        classContent fuel left (members.add ⟨s, 0⟩)
      | none =>
        skip 1
        let inner ← bracketClass fuel
        classContent fuel left (members.add inner)
    | _, _ =>
      let s ← classRange
      classContent fuel left (members.add ⟨s, 0⟩)

end

end FeatureFlags.Regex
