import FeatureFlags.Text.CharSet

/-!
# Runs of bytes

A set of characters as texts of bytes: each run of characters falls into a few products of byte
ranges, one range for each byte of the encoding.
-/
namespace FeatureFlags.Regex

/-- A range of bytes. -/
abbrev ByteRange := Nat × Nat

/-- One range for each byte of an encoded character. -/
abbrev ByteRun := List ByteRange

/-- The numbers from one to another, written with a first byte that starts at `base` and a number of
further bytes of six bits each. -/
def digitRuns : Nat → Nat → Nat → Nat → List ByteRun
  | 0, base, first, last => [[(base + first, base + last)]]
  | more + 1, base, first, last =>
    let unit := Nat.pow 64 (more + 1)
    let low := first / unit
    let high := last / unit
    let under (lead : Nat) (runs : List ByteRun) : List ByteRun :=
      runs.map ((base + lead, base + lead) :: ·)
    let full : ByteRun := List.replicate (more + 1) (0x80, 0xbf)
    if low = high then under low (digitRuns more 0x80 (first % unit) (last % unit))
    else
      let cutLow := first % unit ≠ 0
      let cutHigh := last % unit ≠ unit - 1
      let middleLow := if cutLow then low + 1 else low
      let middleHigh := if cutHigh then high - 1 else high
      (if cutLow then under low (digitRuns more 0x80 (first % unit) (unit - 1)) else []) ++
      (if middleLow ≤ middleHigh then [(base + middleLow, base + middleHigh) :: full] else []) ++
      (if cutHigh then under high (digitRuns more 0x80 0 (last % unit)) else [])

/-- The code points that take one to four bytes, with the number of bytes behind the first one and
where the first byte starts. -/
def encodingLengths : List (Nat × Nat × Nat × Nat) :=
  [(0, 0x7f, 0, 0), (0x80, 0x7ff, 1, 0xc0), (0x800, 0xffff, 2, 0xe0), (0x10000, 0x10ffff, 3, 0xf0)]

def byteRunsOfRange (first last : Nat) : List ByteRun :=
  encodingLengths.flatMap fun (low, high, more, base) =>
    let first := max first low
    let last := min last high
    if first ≤ last then digitRuns more base first last else []

/-- The runs of all members, in ascending order. -/
def byteRuns (s : CharSet) : List ByteRun := s.ranges.flatMap fun r => byteRunsOfRange r.1 r.2

end FeatureFlags.Regex
