/-!
# Unsigned integers of 64 bits

Decimal digits with an optional plus sign. Digits are taken from the left, so of a bad digit and an
overflow the one that comes first is reported.
-/
namespace FeatureFlags.Text

inductive UnsignedFault where
  | empty
  | invalidDigit
  | tooLarge
deriving DecidableEq

def UnsignedFault.message : UnsignedFault → String
  | empty => "cannot parse integer from empty string"
  | invalidDigit => "invalid digit found in string"
  | tooLarge => "number too large to fit in target type"

/-- Extends a number that is read already by the digits that follow. -/
def readUnsigned (n : Nat) : List Char → Except UnsignedFault Nat
  | [] => .ok n
  | c :: rest =>
    if '0' ≤ c ∧ c ≤ '9' then
      let next := 10 * n + (c.toNat - '0'.toNat)
      if next < 0x10000000000000000 then readUnsigned next rest else .error .tooLarge
    else .error .invalidDigit

def unsigned? : List Char → Except UnsignedFault Nat
  | [] => .error .empty
  | ['+'] => .error .invalidDigit
  | '+' :: rest => readUnsigned 0 rest
  | s => readUnsigned 0 s

end FeatureFlags.Text
