import FeatureFlags.Double.Rounding

/-!
# Shortest decimals

Of all decimals that read back as a given finite number, one with the fewest digits, and of those
the nearest to the number. A grid of decimals keeps the leading digits of the exact value; the
coarsest grid on which a neighbour of the value reads back gives the answer.
-/
namespace FeatureFlags.Double

/-- The decimal that equals the number exactly. -/
def exact (x : Double) : Decimal :=
  if 0 ≤ x.scale then ⟨x.significand * Nat.pow 2 x.scale.toNat, 0⟩
  else ⟨x.significand * Nat.pow 5 (-x.scale).toNat, x.scale⟩

def readsBack (x : Double) (d : Decimal) : Bool := ofDecimal x.negative d == x

/-- The neighbours of a decimal on the grid that drops its last `n` digits, and the digits
dropped. -/
def Decimal.below (d : Decimal) (n : Nat) : Decimal := ⟨d.digits / Nat.pow 10 n, d.exponent + n⟩

def Decimal.above (d : Decimal) (n : Nat) : Decimal := ⟨d.digits / Nat.pow 10 n + 1, d.exponent + n⟩

/-- The neighbour on a grid that reads back; of two the nearer, at equal distance the even one. -/
def onGrid (x : Double) (n : Nat) : Option Decimal :=
  let d := x.exact
  let twice := 2 * (d.digits % Nat.pow 10 n)
  let lowFirst := twice < Nat.pow 10 n ∨ (twice = Nat.pow 10 n ∧ d.digits / Nat.pow 10 n % 2 = 0)
  match readsBack x (d.below n), readsBack x (d.above n) with
  | true, true => some (if lowFirst then d.below n else d.above n)
  | true, false => some (d.below n)
  | false, true => some (d.above n)
  | false, false => none

/-- Moves trailing zeros of the digits into the exponent. -/
def Decimal.strip (d : Decimal) : Nat → Decimal
  | 0 => d
  | fuel + 1 =>
    if d.digits ≠ 0 ∧ d.digits % 10 = 0 then
      Decimal.strip ⟨d.digits / 10, d.exponent + 1⟩ fuel
    else d

def shortest (x : Double) : Decimal :=
  let length := (Nat.toDigits 10 x.exact.digits).length
  let found := ((List.range length).reverse.findSome? x.onGrid).getD x.exact
  found.strip (Nat.toDigits 10 found.digits).length

end FeatureFlags.Double
