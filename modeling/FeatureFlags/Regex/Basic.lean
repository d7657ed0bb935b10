import FeatureFlags.Text.CharSet

/-!
# Regular expressions

What is kept of a pattern once it is read. Which of several matches is preferred plays no part,
since the only question asked is whether there is one; that a repetition is greedy and that a group
has a number still counts where expressions are compared or measured.
-/
namespace FeatureFlags

namespace Regex

/-- Conditions on the characters at both sides of a position. `sort` says what a word is made of. -/
inductive Look where
  | textStart
  | textEnd
  | lineStart
  | lineEnd
  | returnLineStart
  | returnLineEnd
  | boundary (sort : CharSet)
  | noBoundary (sort : CharSet)
  | wordStart (sort : CharSet)
  | wordEnd (sort : CharSet)
  | noWordBefore (sort : CharSet)
  | noWordAfter (sort : CharSet)
deriving DecidableEq

/-- Whether a condition holds between two characters, either of which may be missing. -/
def Look.holds (before after : Option Char) : Look → Bool
  | textStart => before.isNone
  | textEnd => after.isNone
  | lineStart => before.all (· == '\n')
  | lineEnd => after.all (· == '\n')
  | returnLineStart => before.all fun c => c == '\n' || c == '\r' && after != some '\n'
  | returnLineEnd => after.all fun c => c == '\r' || c == '\n' && before != some '\r'
  | boundary sort => before.any sort.contains != after.any sort.contains
  | noBoundary sort => before.any sort.contains == after.any sort.contains
  | wordStart sort => !before.any sort.contains && after.any sort.contains
  | wordEnd sort => before.any sort.contains && !after.any sort.contains
  | noWordBefore sort => !before.any sort.contains
  | noWordAfter sort => !after.any sort.contains

end Regex

inductive Regex where
  | empty
  /-- One character or more, one after the other. -/
  | text (s : List Char)
  /-- One character of a set. -/
  | set (s : CharSet)
  | look (l : Regex.Look)
  | group (index : Nat) (r : Regex)
  | seq (a b : Regex)
  /-- One of two texts or more. -/
  | oneOf (texts : List (List Char))
  | alt (a b : Regex)
  /-- At least `min` times, and at most `max` times if that is given. -/
  | times (r : Regex) (min : Nat) (max : Option Nat) (greedy : Bool)
deriving DecidableEq

end FeatureFlags
