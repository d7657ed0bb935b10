import FeatureFlags.Double.Basic

/-!
# Rounding to binary64

The nearest number to a quotient of naturals, a tie going to the even significand. Integers and
decimals are such quotients.
-/
namespace FeatureFlags.Double

/-- The quotient to the nearest natural, a half to the even one. -/
def roundQuotient (num den : Nat) : Nat :=
  let q := num / den
  let twice := 2 * (num % den)
  if den < twice ∨ (twice = den ∧ q % 2 = 1) then q + 1 else q

/-- The greatest exponent of a power of two that does not exceed `num / den`. -/
def floorLog (num den : Nat) : Int :=
  let e : Int := num.log2 - den.log2
  if num * Nat.pow 2 (-e).toNat < den * Nat.pow 2 e.toNat then e - 1 else e

/-- Magnitude of the number nearest to `num / den`. The significand has 53 digits, or fewer where
the scale would fall below the smallest one; a carry out of the significand moves to the next
scale by itself. -/
def nearestMagnitude (num den : Nat) : Nat :=
  if num = 0 then 0
  else
    let scale := max (floorLog num den - 52) (-1074)
    let significand := roundQuotient (num * Nat.pow 2 (-scale).toNat) (den * Nat.pow 2 scale.toNat)
    (scale + 1074).toNat * leadingBit + significand

def ofRatio (negative : Bool) (num den : Nat) : Double :=
  ofMagnitude negative (nearestMagnitude num den)

def ofInt (i : Int) : Double := ofRatio (i < 0) i.natAbs 1

/-- A decimal: its digits read as a natural, times ten to an exponent. -/
structure Decimal where
  digits : Nat
  exponent : Int
deriving DecidableEq

/-- Exponents beyond the range of the format are answered without computing the power. -/
def ofDecimal (negative : Bool) (d : Decimal) : Double :=
  if d.digits = 0 then zero negative
  else if 400 < d.exponent then infinity negative
  else if d.exponent < -(400 + (d.digits.log2 : Int)) then zero negative
  else ofRatio negative (d.digits * Nat.pow 10 d.exponent.toNat)
    (Nat.pow 10 (-d.exponent).toNat)

end FeatureFlags.Double
