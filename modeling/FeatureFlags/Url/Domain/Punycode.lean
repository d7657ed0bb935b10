import FeatureFlags.Text.CharSet

/-!
# Labels in ASCII

A label with characters outside ASCII is written as its ASCII characters and, behind a hyphen, as
digits of base 36. The digits tell, for each other character in the order of the code points, how
far it is from the one before: a step for each place in the label, and a round of the label for each
code point.
-/
namespace FeatureFlags.Url

/-- The first code point outside ASCII. -/
def firstCode : Nat := 128

def firstBias : Nat := 72

/-- The bias after a number that was written at a place among so many characters. -/
def adapt (delta points : Nat) (first : Bool) : Nat :=
  let delta := if first then delta / 700 else delta / 2
  go 40 (delta + delta / points) 0
where
  go : Nat → Nat → Nat → Nat
    | 0, _, k => k
    | fuel + 1, delta, k =>
      if 455 < delta then go fuel (delta / 35) (k + 36) else k + 36 * delta / (delta + 38)

/-- The least digit after which a number goes on, at its place and under a bias. -/
def threshold (bias place : Nat) : Nat := if place ≤ bias then 1 else min 26 (place - bias)

/-! ## Writing -/

/-- The digit of a value: letters first, then numerals. -/
def base36 (n : Nat) : Char := Char.ofNat (if n < 26 then n + 97 else n - 26 + 48)

/-- A number in digits whose base changes with their place. -/
def variableDigits (bias : Nat) : Nat → Nat → Nat → List Char
  | 0, _, _ => []
  | fuel + 1, q, place =>
    let t := threshold bias place
    if q < t then [base36 q]
    else
      base36 (t + (q - t) % (36 - t)) ::
        variableDigits bias fuel ((q - t) / (36 - t)) (place + 36)

/-- State of the encoder: the least code not yet written, the distance gone, the bias, how many
characters are done, and the digits written. -/
structure Progress where
  code : Nat
  delta : Nat
  bias : Nat
  done : Nat
  digits : List Char

def encodeCode (codes : List Nat) (basic : Nat) (p : Progress) (code : Nat) : Progress :=
  let start := { p with delta := p.delta + (code - p.code) * (p.done + 1), code := code }
  let p := codes.foldl (fun (p : Progress) c =>
    if c < code then { p with delta := p.delta + 1 }
    else if c = code then
      { p with
        digits := p.digits ++ variableDigits p.bias 64 p.delta 36
        bias := adapt p.delta (p.done + 1) (p.done = basic)
        delta := 0
        done := p.done + 1 }
    else p) start
  { p with delta := p.delta + 1, code := code + 1 }

/-- A label with characters outside ASCII, without the lead. -/
def punycode (label : List Char) : List Char :=
  let codes := label.map Char.toNat
  let basic := label.filter (·.toNat < 128)
  let later := ((codes.filter (128 ≤ ·)).eraseDups).mergeSort
  let front := if basic.isEmpty then [] else basic ++ ['-']
  front ++ (later.foldl (encodeCode codes basic.length)
    ⟨firstCode, 0, firstBias, basic.length, []⟩).digits

/-! ## Reading -/

def base36Value? (c : Char) : Option Nat :=
  if 'a' ≤ c ∧ c ≤ 'z' then some (c.toNat - 97)
  else if '0' ≤ c ∧ c ≤ '9' then some (c.toNat - 48 + 26)
  else none

/-- State of the decoder: the label so far, the code point and the place reached, and the number
that is being read, with the weight and the place of its next digit. -/
structure Decoding where
  label : List Char
  code : Nat
  place : Nat
  bias : Nat
  number : Nat
  weight : Nat
  digitPlace : Nat

/-- No number may reach this. -/
def numberLimit : Nat := 0x100000000

/-- Puts in the character to which a complete number leads. -/
def Decoding.insert? (d : Decoding) : Option Decoding := do
  let length := d.label.length + 1
  let reached := d.place + d.number
  let code := d.code + reached / length
  let place := reached % length
  let c ← Text.charOfCode? code
  return {
    label := d.label.take place ++ c :: d.label.drop place
    code
    place := place + 1
    bias := adapt d.number length (d.place = 0)
    number := 0
    weight := 1
    digitPlace := 36 }

/-- Reads a digit. -/
def Decoding.digit? (d : Decoding) (c : Char) : Option Decoding := do
  let value ← base36Value? c
  let t := threshold d.bias d.digitPlace
  let d := { d with number := d.number + value * d.weight }
  if numberLimit ≤ d.place + d.number then none
  if value < t then d.insert?
  else if numberLimit ≤ d.weight * (36 - t) then none
  else return { d with weight := d.weight * (36 - t), digitPlace := d.digitPlace + 36 }

/-- The label that some digits stand for, behind its ASCII characters. -/
def decodeDigits? (basic digits : List Char) : Option (List Char) := do
  let d ← digits.foldlM Decoding.digit? ⟨basic, firstCode, 0, firstBias, 0, 1, 36⟩
  if d.weight = 1 then return d.label else none

/-- The label that is written by ASCII characters in front of the last hyphen, if there is one, and
digits behind it. -/
def decodeLabel? (s : List Char) : Option (List Char) :=
  let digits := (s.reverse.takeWhile (· ≠ '-')).reverse
  let front := s.take (s.length - digits.length)
  if digits.isEmpty || front = ['-'] || front.any (128 ≤ ·.toNat) then none
  else decodeDigits? front.dropLast digits

end FeatureFlags.Url
