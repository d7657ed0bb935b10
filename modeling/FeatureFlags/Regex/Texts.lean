import FeatureFlags.Regex.Lead

/-!
# Expressions that are texts

Some expressions say no more than that a text holds one of a few texts. What starts with a text that
matches already adds nothing to it, however large it is. Such expressions take no automaton.
-/
namespace FeatureFlags.Regex

namespace Lead

/-! ## What is looked for

Few and telling starts are kept rather than many that are whole. -/

/-- Drops what another start decides that is preferred to it and of which it is a continuation. -/
def minimize (leads : List Lead) : List Lead :=
  leads.foldl (fun kept l => if kept.any (·.bytes.isPrefixOf l.bytes) then kept else kept ++ [l]) []

/-- What all starts have in common at their front. -/
def commonStart : List Lead → List UInt8
  | [] => []
  | l :: rest => rest.foldl (fun front m => commonFront front m.bytes) l.bytes

/-- Bytes that occur so often that it tells little to find one. -/
def isFrequent (b : UInt8) : Bool :=
  128 ≤ b || "\n\r (),-./0129:_abcdefghilmnoprstuvxy|".toList.contains (Char.ofNat b.toNat)

/-- Cuts starts to fewer and fewer bytes, each time as long as they are more than some number. -/
def shortened : List (Nat × Nat) → List Lead → List Lead
  | [], leads => leads
  | (length, count) :: rest, leads =>
    if leads.length ≤ count then leads
    else shortened rest (minimize (leads.map (within length)))

/-- Lengths, each with the number of starts up to which nothing is cut. -/
def lengthSteps : List (Nat × Nat) := [(5, 10), (4, 10), (3, 64), (2, 64), (1, 10)]

/-- Cuts starts to what they have in common where that is long, or where they are many or cut
anyway. -/
def commonOnly (leads : List Lead) : List Lead :=
  let front := commonStart leads
  let isFast := leads.all (·.whole) && leads.length ≤ 16
  if 4 < front.length || 1 < front.length && !isFast then merge (leads.map (within front.length))
  else leads

/-- The starts to look for. Many starts that are whole are cut only if few are left that way and
none of these is very short. -/
def lookedFor (leads : List Lead) : List Lead :=
  let least := minimize leads
  let front := commonStart least
  if 1 < leads.length && front.length ≤ 3 && front.head?.any (!isFrequent ·) then
    merge (least.map (within 1))
  else
    let least := commonOnly least
    let short := shortened lengthSteps least
    if least.all (·.whole) && (short.any (·.bytes.length ≤ 2) || 64 < short.length) then least
    else short

end Lead

/-! ## Expressions -/

/-- Whether an expression has neither groups nor conditions. -/
def isPlain : Regex → Bool
  | empty | text _ | set _ | oneOf _ => true
  | look _ | group _ _ => false
  | seq a b | alt a b => isPlain a && isPlain b
  | times r _ _ _ => isPlain r

/-- The number of texts from which on they are looked for all at once. -/
def manyTexts : Nat := 3000

/-- The texts one of which a text has to hold to match, if the expression says no more than that. -/
def texts? (r : Regex) : Option (List (List Char)) :=
  if r.isPlain then
    match r with
    | oneOf texts => if manyTexts ≤ texts.length then some texts else found?
    | _ => found?
  else none
where
  found? : Option (List (List Char)) := do
    let leads := Lead.merge (← Leads.ofRegex r .alone)
    let found := Lead.lookedFor leads
    if leads.all (!·.bytes.isEmpty) && !found.isEmpty && found.all (·.whole) then
      found.mapM fun l => (String.fromUTF8? ⟨l.bytes.toArray⟩).map String.toList
    else none

end FeatureFlags.Regex
