/-!
# Binary64 numbers

A number is its sign and its magnitude: the lower 63 bits of the format read as a natural number.
Magnitudes order the numbers of one sign, so zero, the finite numbers, infinity and the invalid
numbers are ranges of magnitudes. All arithmetic on values is done on naturals.
-/
namespace FeatureFlags

structure Double where
  negative : Bool
  magnitude : Fin 0x8000000000000000
deriving DecidableEq

namespace Double

/-- The digit of a significand that the format does not store. -/
def leadingBit : Nat := 0x10000000000000

/-- Magnitude of infinity: every finite number lies below it. -/
def infiniteMagnitude : Nat := 2047 * leadingBit

/-- The number of a sign and a magnitude; what is not below infinity becomes infinity. -/
def ofMagnitude (negative : Bool) (magnitude : Nat) : Double :=
  if h : magnitude < infiniteMagnitude then
    ⟨negative, magnitude, Nat.lt_trans h (by decide)⟩
  else ⟨negative, infiniteMagnitude, by decide⟩

def zero (negative : Bool) : Double := ⟨negative, 0⟩

def infinity (negative : Bool) : Double := ⟨negative, infiniteMagnitude, by decide⟩

def nan : Double := ⟨false, infiniteMagnitude + leadingBit / 2, by decide⟩

def isFinite (x : Double) : Bool := x.magnitude.val < infiniteMagnitude

def isNaN (x : Double) : Bool := infiniteMagnitude < x.magnitude.val

def isZero (x : Double) : Bool := x.magnitude.val == 0

/-- A finite number is its significand times two to its scale, up to sign. -/
def significand (x : Double) : Nat :=
  let fraction := x.magnitude.val % leadingBit
  if x.magnitude.val < leadingBit then fraction else leadingBit + fraction

def scale (x : Double) : Int :=
  if x.magnitude.val < leadingBit then -1074 else (x.magnitude.val / leadingBit : Nat) - 1075

/-- Equality of values: the two zeros are equal, and an invalid number equals nothing. -/
def agrees (x y : Double) : Bool :=
  !x.isNaN && !y.isNaN && (x == y || x.isZero && y.isZero)

theorem agrees_comm (x y : Double) : agrees x y = agrees y x := by
  have h : (x == y) = (y == x) := by
    by_cases h : x = y
    · rw [h]
    · rw [beq_false_of_ne h, beq_false_of_ne fun e => h e.symm]
  simp only [agrees, h, Bool.and_comm x.isZero, Bool.and_comm (!x.isNaN)]

theorem agrees_self {x : Double} (h : x.isNaN = false) : agrees x x = true := by
  simp [agrees, h]

end Double

end FeatureFlags
