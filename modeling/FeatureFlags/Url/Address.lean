import FeatureFlags.Text.Hexadecimal
import FeatureFlags.Text.Pieces

/-!
# Network addresses

Hosts that are numbers: four bytes, written in one to four parts of base ten, eight or sixteen, and
eight pieces of 16 bits, of which a run of zeros may be left out.
-/
namespace FeatureFlags.Url

def joinChars (separator : Char) (pieces : List (List Char)) : List Char :=
  List.intercalate [separator] pieces

/-! ## Four bytes -/

def digitValue? (base : Nat) (c : Char) : Option Nat := (Text.hexValue? c).filter (· < base)

def numberInBase? (base : Nat) (digits : List Char) : Option Nat :=
  digits.foldlM (fun n c => (digitValue? base c).map (base * n + ·)) 0

/-- A part of an address: a leading zero means base eight, `0x` base sixteen. -/
def addressPart? : List Char → Option Nat
  | [] => none
  | '0' :: 'x' :: rest | '0' :: 'X' :: rest => numberInBase? 16 rest
  | '0' :: c :: rest => numberInBase? 8 (c :: rest)
  | digits => numberInBase? 10 digits

/-- The pieces of a domain between dots, without an empty piece at the end. -/
def labels (domain : List Char) : List (List Char) :=
  let pieces := Text.splitAt '.' domain
  if pieces.getLast? = some [] then pieces.dropLast else pieces

/-- A host whose last label is a number has to be an address. -/
def endsInNumber (domain : List Char) : Bool :=
  match (labels domain).getLast? with
  | some last => !last.isEmpty && last.all Char.isDigit || (addressPart? last).isSome
  | none => false

/-- The parts in front are bytes, and the last one fills the bytes that are left. -/
def combineParts : List Nat → Option Nat
  | [] => none
  | parts =>
    let last := parts.getLastD 0
    let front := parts.dropLast
    let limit := Nat.pow 256 (4 - front.length)
    if last < limit ∧ front.all (· < 256) then
      some (front.foldl (fun n byte => 256 * n + byte) 0 * limit + last)
    else none

def ipv4? (domain : List Char) : Option Nat :=
  let parts := labels domain
  if 4 < parts.length then none else parts.mapM addressPart? >>= combineParts

def ipv4Chars (address : Nat) : List Char :=
  joinChars '.' <| [0x1000000, 0x10000, 0x100, 1].map fun unit =>
    Nat.toDigits 10 (address / unit % 256)

/-! ## Eight pieces -/

/-- A piece of one to four hexadecimal digits. -/
def piece? (digits : List Char) : Option Nat :=
  if digits.length ∈ [1, 2, 3, 4] then numberInBase? 16 digits else none

/-- Four decimal bytes without leading zeros, as the two last pieces. -/
def embedded? (s : List Char) : Option (List Nat) := do
  let bytes ← (Text.splitAt '.' s).mapM fun digits =>
    if digits.length ∈ [1, 2, 3] ∧ (digits.head? ≠ some '0' ∨ digits = ['0']) then
      (numberInBase? 10 digits).filter (· < 256)
    else none
  match bytes with
  | [a, b, c, d] => some [256 * a + b, 256 * c + d]
  | _ => none

/-- The pieces between colons; the last one may be four bytes instead. -/
def pieces? (s : List Char) : Option (List Nat) :=
  if s.isEmpty then some []
  else
    let parts := Text.splitAt ':' s
    let last := parts.getLastD []
    if last.contains '.' then do
      let front ← parts.dropLast.mapM piece?
      let back ← embedded? last
      return front ++ back
    else parts.mapM piece?

/-- What stands before and after the first pair of colons. -/
def splitGap : List Char → Option (List Char × List Char)
  | ':' :: ':' :: rest => some ([], rest)
  | c :: rest => (splitGap rest).map fun p => (c :: p.1, p.2)
  | [] => none

def ipv6? (s : List Char) : Option (List Nat) :=
  match splitGap s with
  | some (front, back) => do
    let front ← pieces? front
    let back ← pieces? back
    if front.length + back.length < 8 then
      return front ++ List.replicate (8 - front.length - back.length) 0 ++ back
    else none
  | none => (pieces? s).filter (·.length = 8)

/-- Length of the run of zeros at the front. -/
def zeroRun (pieces : List Nat) : Nat := (pieces.takeWhile (· = 0)).length

/-- The first of the longest runs of two zeros or more: where it starts and how long it is. -/
def longestGap (pieces : List Nat) : Option (Nat × Nat) :=
  (List.range pieces.length).foldl (fun best i =>
    let n := zeroRun (pieces.drop i)
    if (best.map (·.2)).getD 1 < n then some (i, n) else best) none

def ipv6Chars (pieces : List Nat) : List Char :=
  let write (ps : List Nat) : List Char := joinChars ':' (ps.map Text.hexChars)
  match longestGap pieces with
  | some (i, n) => write (pieces.take i) ++ [':', ':'] ++ write (pieces.drop (i + n))
  | none => write pieces

end FeatureFlags.Url
