import FeatureFlags.Regex.Build

/-!
# What matches start with

The texts with which the matches of an expression start, as far as they are few and short.
-/
namespace FeatureFlags.Regex

/-- The start of a match in bytes. -/
structure Lead where
  bytes : List UInt8
  /-- Whether the match ends with these bytes. -/
  whole : Bool
deriving DecidableEq

/-- The starts of all matches, preferred ones first; there are none if they are too many to tell. -/
abbrev Leads := Option (List Lead)

namespace Lead

/-- The start of a longer match. -/
def cut (l : Lead) : Lead := { l with whole := false }

/-- A start that is no longer than some bytes. -/
def within (count : Nat) (l : Lead) : Lead :=
  if l.bytes.length ≤ count then l else ⟨l.bytes.take count, false⟩

def ofChars (s : List Char) : Lead := ⟨s.flatMap String.utf8EncodeChar, true⟩

/-- The most characters of a set that are told one by one. -/
def maxMembers : Nat := 10

/-- The most times that a repetition is followed. -/
def maxTimes : Nat := 10

def maxLength : Nat := 100

/-- The most starts that are told. -/
def maxCount : Nat := 250

/-- The length to which starts are cut where they are too many. -/
def shortLength : Nat := 4

/-- Makes one of starts that stand side by side and have the same bytes. -/
def merge (leads : List Lead) : List Lead :=
  leads.foldr
    (fun l merged =>
      match merged with
      | [] => [l]
      | m :: rest =>
        if l.bytes = m.bytes then ⟨l.bytes, l.whole && m.whole⟩ :: rest else l :: m :: rest)
    []

end Lead

namespace Leads

/-- The start of the empty text. -/
def start : Leads := some [⟨[], true⟩]

def ofText (s : List Char) : Leads := some [(Lead.ofChars s).within Lead.maxLength]

def ofSet (s : CharSet) : Leads :=
  let count := s.ranges.foldl (fun n r => n + (r.2 + 1 - r.1)) 0
  if Lead.maxMembers < count then none
  else
    some (s.ranges.flatMap fun r =>
      (List.range' r.1 (r.2 + 1 - r.1)).map fun n => Lead.ofChars [Char.ofNat n])

/-- Whether nothing that follows is told any more. -/
def isClosed : Leads → Bool
  | none => true
  | some leads => leads.all (!·.whole)

def cut (leads : Leads) : Leads := leads.map (·.map Lead.cut)

/-- The starts of two parts one after the other. Where those of the second part are not told, they
cut the first ones, and nothing is told if one of these is empty. -/
def followedBy : Leads → Leads → Leads
  | none, _ => none
  | some first, second =>
    match second.filter fun leads => first.length * leads.length ≤ Lead.maxCount with
    | none => if first.any (·.bytes.isEmpty) then none else some (first.map Lead.cut)
    | some leads =>
      let both := first.flatMap fun l =>
        if l.whole then leads.map fun m => ⟨l.bytes ++ m.bytes, m.whole⟩ else [l]
      some ((Lead.merge both).map (Lead.within Lead.maxLength))

/-- The starts of two branches. Where they are too many, they are cut first. -/
def orElse : Leads → Leads → Leads
  | some first, some second =>
    if first.length + second.length ≤ Lead.maxCount then some (Lead.merge (first ++ second))
    else
      let short (leads : List Lead) := Lead.merge (leads.map (Lead.within Lead.shortLength))
      let both := short first ++ short second
      if both.length ≤ Lead.maxCount then some (Lead.merge both) else none
  | _, _ => none

/-- The starts of a part that is repeated. -/
def repeated (part : Leads) (min : Nat) (max : Option Nat) (greedy : Bool) : Leads :=
  match min, max with
  | 0, max =>
    let part := if max = some 1 then part else cut part
    if greedy then orElse part start else orElse start part
  | _, none => cut part
  | min, some max =>
    let again (before : Leads) := if isClosed before then before else followedBy before part
    let taken := Nat.repeat again (Nat.min min Lead.maxTimes) start
    if min = max ∧ min ≤ Lead.maxTimes then taken else cut taken

/-- Where an expression stands. -/
inductive Place where
  | alone
  | after (before : Leads)
  | beside (others : Leads)

/-- The starts of a place, given those of the expression that stands there. -/
def Place.put : Place → Leads → Leads
  | alone, leads => leads
  | after before, leads => if isClosed before then before else followedBy before leads
  | beside others, leads => orElse others leads

/-- The starts of an expression together with those of what stands before or beside it. -/
def ofRegex : Regex → Place → Leads
  | .empty, p | .look _, p => p.put start
  | .text s, p => p.put (ofText s)
  | .set s, p => p.put (ofSet s)
  | .oneOf texts, p => p.put (texts.foldl (fun found s => orElse found (ofText s)) (some []))
  | .group _ r, p => p.put (ofRegex r .alone)
  | .seq a b, .after before => ofRegex b (.after (ofRegex a (.after before)))
  | .seq a b, p => p.put (ofRegex b (.after (ofRegex a (.after start))))
  | .alt a b, .beside others => ofRegex b (.beside (ofRegex a (.beside others)))
  | .alt a b, p => p.put (ofRegex b (.beside (ofRegex a (.beside (some [])))))
  | .times r min max greedy, p => p.put (repeated (ofRegex r .alone) min max greedy)

end Leads

end FeatureFlags.Regex
