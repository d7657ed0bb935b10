import FeatureFlags.Regex.Basic

/-!
# Building expressions

Expressions are put together in a plain form: texts that follow each other are one text, choices
between characters are sets, what branches begin with in common stands in front of them, and what
takes no character is not repeated.
-/
namespace FeatureFlags.Regex

/-- Whether all matches are empty. -/
def isWidthless : Regex → Bool
  | empty | look _ => true
  | text _ | set _ | oneOf _ => false
  | group _ r => isWidthless r
  | seq a b | alt a b => isWidthless a && isWidthless b
  | times r _ max _ => max.isSome && isWidthless r

/-- One character of a set; a set of one character is a text. -/
def ofSet (s : CharSet) : Regex :=
  match s.only? with
  | some c => text [c]
  | none => set s

/-! ## Sequences -/

/-- The parts of a sequence. -/
def items : Regex → List Regex
  | empty => []
  | seq a b => items a ++ items b
  | r => [r]

/-- Makes one text of texts that follow each other. -/
def joinTexts : List Regex → List Regex
  | [] => []
  | text s :: rest =>
    match joinTexts rest with
    | text t :: more => text (s ++ t) :: more
    | joined => text s :: joined
  | r :: rest => r :: joinTexts rest

def chain : List Regex → Regex
  | [] => empty
  | [r] => r
  | r :: rest => seq r (chain rest)

/-- Expressions one after the other. -/
def sequence (rs : List Regex) : Regex := chain (joinTexts (rs.flatMap items))

/-! ## Choices -/

/-- The branches of a choice. -/
def branches : Regex → List Regex
  | alt a b => branches a ++ branches b
  | oneOf texts => texts.map text
  | r => [r]

def fork : List Regex → Regex
  | [] => set .none
  | [r] => r
  | r :: rest => alt r (fork rest)

def text? : Regex → Option (List Char)
  | text s => some s
  | _ => none

def set? : Regex → Option CharSet
  | set s => some s
  | _ => none

/-- The set of the characters between which branches choose, if each of them is one character. -/
def characters? (rs : List Regex) : Option CharSet :=
  (rs.mapM fun r => (text? r).bind fun s => if let [c] := s then some c.toNat else none).map
    CharSet.ofCodes

/-- The union of branches that are sets. -/
def union? (rs : List Regex) : Option CharSet :=
  (rs.mapM set?).map (·.foldl (· ∪ ·) .none)

/-- What two lists have in common at their front. -/
def commonFront {α : Type} [DecidableEq α] : List α → List α → List α
  | a :: as, b :: bs => if a = b then a :: commonFront as bs else []
  | _, _ => []

/-- What sequences have in common at their front; a lone item is no sequence. -/
def commonItems (rs : List Regex) : List Regex :=
  match rs.map items with
  | [] => []
  | first :: rest =>
    if (first :: rest).all (2 ≤ ·.length) then rest.foldl commonFront first else []

/-- One of some branches. The count bounds how often something is taken in front of them. -/
def choiceWithin : Nat → List Regex → Regex
  | 0, rs => fork rs
  | count + 1, rs =>
    match rs.flatMap branches with
    | [r] => r
    | rs =>
      match characters? rs, union? rs, commonItems rs with
      | some s, _, _ | none, some s, _ => ofSet s
      | none, none, [] =>
        match rs.mapM text? with
        | some texts => oneOf texts
        | none => fork rs
      | none, none, front =>
        let rests := rs.map fun r => sequence ((items r).drop front.length)
        sequence (front ++ [choiceWithin count rests])

/-- How deep a pattern may nest. -/
def maxDepth : Nat := 250

/-- One of some branches. Each time that something is taken in front of them, choices have been one
inside the other. -/
def choice (rs : List Regex) : Regex := choiceWithin (maxDepth + 1) rs

/-! ## Repetitions -/

/-- An expression several times. An expression that takes no character need not match twice. -/
def repeated (r : Regex) (min : Nat) (max : Option Nat) (greedy : Bool) : Regex :=
  let (min, max) :=
    if r.isWidthless then (Nat.min min 1, some ((max.map (Nat.min · 1)).getD 1)) else (min, max)
  match min, max with
  | 0, some 0 => empty
  | 1, some 1 => r
  | min, max => times r min max greedy

end FeatureFlags.Regex
