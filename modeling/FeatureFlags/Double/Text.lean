import FeatureFlags.Double.Shortest

/-!
# Text of binary64 numbers

The shortest digits, laid out by a fixed set of decisions: positional between two decimal exponents
and scientific outside, always recognisable as a number with a fraction or an exponent.
-/
namespace FeatureFlags.Double

/-- Decisions on how digits are laid out. -/
structure Layout where
  /-- Decimal exponents from `low` up to but not including `high` are written positionally. -/
  low : Int
  high : Int
  /-- Written after an integral positional text. -/
  integralTail : List Char
  /-- Mark and sign that open an exponent. -/
  positiveMark : List Char
  negativeMark : List Char

/-- Positional from 0.00001 up to below 10^16, whole numbers with `.0`; an exponent has a sign and
no padding. -/
def layout : Layout where
  low := -5
  high := 16
  integralTail := ['.', '0']
  positiveMark := ['e', '+']
  negativeMark := ['e', '-']

def digitChars (n : Nat) : List Char := Nat.toDigits 10 n

def Layout.scientific (l : Layout) (digits : List Char) (exponent : Int) : List Char :=
  let mantissa := match digits with
    | d :: e :: rest => d :: '.' :: e :: rest
    | _ => digits
  let mark := if exponent < 0 then l.negativeMark else l.positiveMark
  mantissa ++ mark ++ digitChars exponent.natAbs

/-- `point` digits stand before the decimal point. -/
def Layout.positional (l : Layout) (digits : List Char) (point : Int) : List Char :=
  if point ≤ 0 then '0' :: '.' :: (List.replicate (-point).toNat '0' ++ digits)
  else
    let n := point.toNat
    if digits.length ≤ n then
      digits ++ List.replicate (n - digits.length) '0' ++ l.integralTail
    else digits.take n ++ '.' :: digits.drop n

def Layout.decimal (l : Layout) (d : Decimal) : List Char :=
  let digits := digitChars d.digits
  let exponent := d.exponent + digits.length - 1
  if l.low ≤ exponent ∧ exponent < l.high then l.positional digits (exponent + 1)
  else l.scientific digits exponent

/-- Text of a number; the invalid number and the infinities have names. -/
def chars (x : Double) : List Char :=
  let sign := if x.negative then ['-'] else []
  if x.isNaN then ['N', 'a', 'N']
  else if x.isFinite then
    if x.isZero then sign ++ '0' :: layout.integralTail else sign ++ layout.decimal x.shortest
  else sign ++ ['i', 'n', 'f']

def text (x : Double) : String := String.ofList x.chars

end FeatureFlags.Double
