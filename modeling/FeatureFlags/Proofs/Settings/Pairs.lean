import FeatureFlags.Settings.Lookup
import FeatureFlags.Proofs.Text.Pieces

/-!
# Lists of pairs

A variable that holds pairs is read piece by piece, and only the first piece without a name or a
value is reported (`pairs?_eq`). Main statement: pairs that can be written are read as they were
written, however much white space and however many blank pieces there are, and a text is refused
just if a piece that is not blank has no equals sign or no name in front of it
(`pairs_read_as_written`).
-/
namespace FeatureFlags.Lookup

open Text

/-- A piece without an equals sign, or without a name in front of the first one. -/
def Malformed (piece : List Char) : Prop := '=' ∉ piece ∨ Blank (piece.takeWhile (· ≠ '='))

instance : DecidablePred Malformed := fun piece =>
  inferInstanceAs (Decidable ('=' ∉ piece ∨ Blank (piece.takeWhile (· ≠ '='))))

/-- The pair that a piece holds, cut at the first equals sign. -/
def pairOf (piece : List Char) : String × String :=
  (String.ofList (trim (piece.takeWhile (· ≠ '='))),
    String.ofList (trim (piece.dropWhile (· ≠ '=')).tail))

/-- The pieces that are not blank. -/
def counted (pieces : List (List Char)) : List (List Char) := pieces.filter (!isAllBlank ·)

/-- What separates pairs from each other, and a name from its value, is not written in a name; a
value lacks the separator of pairs only. -/
structure Writable (p : String × String) : Prop where
  name_ne : p.1 ≠ ""
  name_comma : ',' ∉ p.1.toList
  name_equals : '=' ∉ p.1.toList
  value_comma : ',' ∉ p.2.toList
  name_bare : Bare p.1.toList
  value_bare : Bare p.2.toList

/-- The pieces of a text that spell pairs: white space may stand around names and values, and blank
pieces anywhere. -/
inductive Spells : List (List Char) → List (String × String) → Prop where
  | done : Spells [] []
  | blank {piece : List Char} {pieces : List (List Char)} {pairs : List (String × String)}
    (h : Blank piece) (rest : Spells pieces pairs) : Spells (piece :: pieces) pairs
  | pair {name value : String} {front behind : List Char} {pieces : List (List Char)}
    {pairs : List (String × String)} (hname : Padded name.toList front)
    (hvalue : Padded value.toList behind) (rest : Spells pieces pairs) :
    Spells ((front ++ '=' :: behind) :: pieces) ((name, value) :: pairs)

/-- The text of some pieces. -/
def joined (pieces : List (List Char)) : String := String.ofList ([','].intercalate pieces)

/-- Pairs as they are written without any white space. -/
def written (pairs : List (String × String)) : String :=
  ",".intercalate (pairs.map fun p => p.1 ++ "=" ++ p.2)

variable {lookup : Lookup} {name text : String} {piece : List Char} {pieces : List (List Char)}
  {pairs : List (String × String)}

/-! ## One piece -/

theorem pair?_of_malformed (name : String) (h : Malformed piece) :
    pair? name piece = .error (.invalidPair name (String.ofList piece)) := by
  rw [pair?, splitOnce_eq]
  by_cases hequals : '=' ∈ piece
  · rw [if_pos hequals]
    exact if_pos (h.resolve_left (not_not.2 hequals))
  · rw [if_neg hequals]

theorem pair?_of_not_malformed (name : String) (h : ¬Malformed piece) :
    pair? name piece = .ok (pairOf piece) := by
  obtain ⟨hequals, hkey⟩ := not_or.1 h
  rw [pair?, splitOnce_eq, if_pos (not_not.1 hequals)]
  exact if_neg hkey

/-- A piece in front of whose first equals sign stands a text. -/
theorem cut {front : List Char} (hfront : '=' ∉ front) (behind : List Char) :
    (Malformed (front ++ '=' :: behind) ↔ Blank front) ∧
      pairOf (front ++ '=' :: behind) =
        (String.ofList (trim front), String.ofList (trim behind)) := by
  have hall : ∀ c ∈ front, decide (c ≠ '=') = true := fun c hc =>
    decide_eq_true fun heq => hfront (heq ▸ hc)
  have htake : (front ++ '=' :: behind).takeWhile (· ≠ '=') = front := by
    rw [List.takeWhile_append_of_pos hall]
    simp
  have hdrop : (front ++ '=' :: behind).dropWhile (· ≠ '=') = '=' :: behind := by
    rw [List.dropWhile_append_of_pos hall]
    simp
  constructor
  · rw [Malformed, htake, or_iff_right (by simp)]
  · rw [pairOf, htake, hdrop, List.tail_cons]

theorem equals_not_blank : isBlank '=' = false := by decide

/-- A piece of a pair that can be written is well-formed and holds the pair. -/
theorem Writable.cut {value : String} {front behind : List Char} (h : Writable (name, value))
    (hfront : Padded name.toList front) (hbehind : Padded value.toList behind) :
    ¬Malformed (front ++ '=' :: behind) ∧ pairOf (front ++ '=' :: behind) = (name, value) := by
  have hequals : '=' ∉ front := by
    obtain ⟨a, b, ha, hb, rfl⟩ := hfront
    simp [ha.not_mem equals_not_blank, hb.not_mem equals_not_blank, h.name_equals]
  obtain ⟨hmalformed, hpair⟩ := Lookup.cut hequals behind
  constructor
  · rw [hmalformed, hfront.blank_iff]
    exact h.name_bare.not_blank (by simpa using h.name_ne)
  · rw [hpair, trim_padded hfront, trim_padded hbehind, trim_of_bare h.name_bare,
      trim_of_bare h.value_bare, String.ofList_toList, String.ofList_toList]

/-- White space around a piece changes neither whether it is well-formed nor what it holds. -/
theorem padded_cut {p q : List Char} (h : Padded p q) :
    (Malformed q ↔ Malformed p) ∧ (¬Malformed p → pairOf q = pairOf p) := by
  obtain ⟨a, b, ha, hb, rfl⟩ := h
  by_cases hmem : '=' ∈ p
  · obtain ⟨front, behind, rfl, hfront⟩ := List.eq_append_cons_of_mem hmem
    have hpadded : '=' ∉ a ++ front := by
      simp [ha.not_mem equals_not_blank, hfront]
    have hsplit : a ++ (front ++ '=' :: behind) ++ b = (a ++ front) ++ '=' :: (behind ++ b) := by
      simp
    obtain ⟨hinner, hinnerPair⟩ := cut hfront behind
    obtain ⟨houter, houterPair⟩ := cut hpadded (behind ++ b)
    rw [hsplit, houter, hinner, houterPair, hinnerPair]
    have hkey : Padded front (a ++ front) := ⟨a, [], ha, rfl, by simp⟩
    have hvalue : Padded behind (behind ++ b) := ⟨[], b, rfl, hb, rfl⟩
    exact ⟨hkey.blank_iff, fun _ => by rw [trim_padded hkey, trim_padded hvalue]⟩
  · have hnone : '=' ∉ a ++ p ++ b := by
      simp [ha.not_mem equals_not_blank, hb.not_mem equals_not_blank, hmem]
    exact ⟨iff_of_true (.inl hnone) (.inl hmem), fun h => absurd (.inl hmem) h⟩

/-! ## All pieces -/

/-- Of several malformed pieces the first one is reported. -/
theorem mapM_pair? (name : String) (pieces : List (List Char)) : pieces.mapM (pair? name) =
    match pieces.find? (Malformed ·) with
    | some piece => .error (.invalidPair name (String.ofList piece))
    | none => .ok (pieces.map pairOf) := by
  induction pieces with
  | nil => rfl
  | cons piece rest ih =>
    rw [List.mapM_cons, ih]
    by_cases h : Malformed piece
    · rw [pair?_of_malformed name h, List.find?_cons_of_pos (by simpa using h)]
      rfl
    · rw [pair?_of_not_malformed name h, List.find?_cons_of_neg (by simpa using h)]
      cases rest.find? (Malformed ·) <;> rfl

theorem pairs?_eq (h : lookup name = some text) : lookup.pairs? name =
    let pieces := counted (splitAt ',' (trim text.toList))
    match pieces.find? (Malformed ·) with
    | some piece => .error (.invalidPair name (String.ofList piece))
    | none => .ok (pieces.map pairOf) := by
  rw [pairs?, value?, h, Option.map_some]
  by_cases hempty : trim text.toList = []
  · rw [hempty]
    rfl
  · rw [Option.filter_some_pos (by simpa using hempty)]
    exact mapM_pair? name _

theorem counted_padded {ps qs : List (List Char)} (h : List.Forall₂ Padded ps qs) :
    List.Forall₂ Padded (counted ps) (counted qs) := by
  induction h with
  | nil => exact .nil
  | @cons p q ps qs hpadded _ ih =>
    have hblank : isAllBlank q = isAllBlank p := Bool.eq_iff_iff.2 hpadded.blank_iff
    rw [counted, counted, List.filter_cons, List.filter_cons, hblank]
    split
    · exact .cons hpadded ih
    · exact ih

/-- What trimming takes from the pieces does not matter. -/
theorem read_padded {ps qs : List (List Char)} (h : List.Forall₂ Padded ps qs) :
    ((∃ p ∈ ps, Malformed p) ↔ ∃ q ∈ qs, Malformed q) ∧
      ((∀ q ∈ qs, ¬Malformed q) → ps.map pairOf = qs.map pairOf) := by
  induction h with
  | nil => simp
  | @cons p q ps qs hpadded _ ih =>
    obtain ⟨hmalformed, hpair⟩ := padded_cut hpadded
    constructor
    · simp only [List.mem_cons, exists_eq_or_imp, ih.1, hmalformed]
    · intro hgood
      obtain ⟨hq, hqs⟩ := List.forall_mem_cons.1 hgood
      rw [List.map_cons, List.map_cons, ih.2 hqs, hpair fun hp => hq (hmalformed.2 hp)]

/-- A text is refused just for a malformed piece. -/
theorem pairs?_eq_error_iff (h : lookup name = some text) :
    (∃ e, lookup.pairs? name = .error e) ↔
      ∃ piece ∈ counted (splitAt ',' text.toList), Malformed piece := by
  have hpadded := counted_padded (splitAt_trim (by decide : isBlank ',' = false) text.toList)
  rw [← (read_padded hpadded).1, pairs?_eq h]
  dsimp only
  cases hfind : (counted (splitAt ',' (trim text.toList))).find? (Malformed ·) with
  | some piece =>
    have hmalformed := List.find?_some hfind
    exact iff_of_true ⟨_, rfl⟩
      ⟨piece, List.mem_of_find?_eq_some hfind, of_decide_eq_true hmalformed⟩
  | none =>
    refine iff_of_false (by rintro ⟨e, he⟩; cases he) ?_
    rintro ⟨piece, hpiece, hmalformed⟩
    exact List.find?_eq_none.1 hfind piece hpiece (decide_eq_true hmalformed)

theorem pairs?_eq_ok (h : lookup name = some text)
    (hgood : ∀ piece ∈ counted (splitAt ',' text.toList), ¬Malformed piece) :
    lookup.pairs? name = .ok ((counted (splitAt ',' text.toList)).map pairOf) := by
  have hpadded := counted_padded (splitAt_trim (by decide : isBlank ',' = false) text.toList)
  obtain ⟨hmalformed, hpairs⟩ := read_padded hpadded
  have hnone : (counted (splitAt ',' (trim text.toList))).find? (Malformed ·) = none := by
    refine List.find?_eq_none.2 fun p hp hbad => ?_
    obtain ⟨q, hq, hbad⟩ := hmalformed.1 ⟨p, hp, of_decide_eq_true hbad⟩
    exact hgood q hq hbad
  rw [pairs?_eq h]
  dsimp only
  rw [hnone, hpairs hgood]

/-! ## Texts that spell pairs -/

theorem comma_not_blank : isBlank ',' = false := by decide

theorem comma_not_mem_padded {s t : List Char} (h : Padded s t) (hs : ',' ∉ s) : ',' ∉ t := by
  obtain ⟨a, b, ha, hb, rfl⟩ := h
  simp [ha.not_mem comma_not_blank, hb.not_mem comma_not_blank, hs]

/-- Pieces that spell pairs are cut off at the commas between them, are well-formed, and hold the
pairs. -/
theorem Spells.read (h : Spells pieces pairs) (hpairs : ∀ p ∈ pairs, Writable p) :
    (∀ piece ∈ pieces, ',' ∉ piece) ∧ (∀ piece ∈ counted pieces, ¬Malformed piece) ∧
      (counted pieces).map pairOf = pairs := by
  induction h with
  | done => simp [counted]
  | @blank piece pieces pairs hblank _ ih =>
    obtain ⟨hcommas, hgood, hread⟩ := ih hpairs
    have hcounted : counted (piece :: pieces) = counted pieces :=
      List.filter_cons_of_neg (by simpa [Blank] using hblank)
    rw [hcounted]
    exact ⟨List.forall_mem_cons.2 ⟨hblank.not_mem comma_not_blank, hcommas⟩, hgood, hread⟩
  | @pair name value front behind pieces pairs hname hvalue _ ih =>
    obtain ⟨hpair, hrest⟩ := List.forall_mem_cons.1 hpairs
    obtain ⟨hcommas, hgood, hread⟩ := ih hrest
    obtain ⟨hfine, hholds⟩ := hpair.cut hname hvalue
    have hcomma : ',' ∉ front ++ '=' :: behind := by
      simp [comma_not_mem_padded hname hpair.name_comma,
        comma_not_mem_padded hvalue hpair.value_comma]
    have hcounted : counted ((front ++ '=' :: behind) :: pieces) =
        (front ++ '=' :: behind) :: counted pieces := by
      refine List.filter_cons_of_pos ?_
      have hequals : ¬Blank (front ++ '=' :: behind) := fun hblank =>
        hblank.not_mem equals_not_blank (by simp)
      simpa [Blank] using hequals
    rw [hcounted, List.map_cons, hholds, hread]
    exact ⟨List.forall_mem_cons.2 ⟨hcomma, hcommas⟩, List.forall_mem_cons.2 ⟨hfine, hgood⟩, rfl⟩

theorem pairs?_of_spells (hspells : Spells pieces pairs) (hpairs : ∀ p ∈ pairs, Writable p)
    (h : lookup name = some (joined pieces)) : lookup.pairs? name = .ok pairs := by
  obtain ⟨hcommas, hgood, hread⟩ := hspells.read hpairs
  have hpieces : counted (splitAt ',' (joined pieces).toList) = counted pieces := by
    rw [joined, String.toList_ofList, splitAt_eq_splitOn]
    by_cases hnone : pieces = []
    · rw [hnone]
      rfl
    · rw [List.splitOn_intercalate ',' hcommas hnone]
  rw [pairs?_eq_ok h (by rwa [hpieces]), hpieces, hread]

/-- Pairs are spelled by what is written for them. -/
theorem spells_written (pairs : List (String × String)) :
    ∃ pieces, Spells pieces pairs ∧ joined pieces = written pairs := by
  have hspells : Spells (pairs.map fun p => p.1.toList ++ '=' :: p.2.toList) pairs := by
    induction pairs with
    | nil => exact .done
    | cons p rest ih => exact .pair ⟨[], [], rfl, rfl, by simp⟩ ⟨[], [], rfl, rfl, by simp⟩ ih
  refine ⟨_, hspells, String.toList_inj.1 ?_⟩
  rw [joined, String.toList_ofList, written, String.toList_intercalate, List.map_map]
  congr 1
  refine List.map_congr_left fun p _ => ?_
  simp

/-- Pairs whose names and values can be written are read as they were written, and also where white
space and blank pieces were added. A text is refused just if one of the pieces between its commas is
not blank and lacks an equals sign, or has nothing but white space in front of the first one. -/
theorem pairs_read_as_written (lookup : Lookup) (name : String) :
    (∀ pairs, (∀ p ∈ pairs, Writable p) → lookup name = some (written pairs) →
      lookup.pairs? name = .ok pairs) ∧
    (∀ pieces pairs, (∀ p ∈ pairs, Writable p) → Spells pieces pairs →
      lookup name = some (joined pieces) → lookup.pairs? name = .ok pairs) ∧
    ∀ text, lookup name = some text → ((∃ e, lookup.pairs? name = .error e) ↔
      ∃ piece ∈ splitAt ',' text.toList, ¬Blank piece ∧
        ('=' ∉ piece ∨ Blank (piece.takeWhile (· ≠ '=')))) := by
  refine ⟨?_, ?_, ?_⟩
  · intro pairs hpairs h
    obtain ⟨pieces, hspells, htext⟩ := spells_written pairs
    exact pairs?_of_spells hspells hpairs (htext ▸ h)
  · intro pieces pairs hpairs hspells h
    exact pairs?_of_spells hspells hpairs h
  · intro text h
    rw [pairs?_eq_error_iff h]
    simp only [counted, List.mem_filter, and_assoc, Bool.not_eq_true', Blank, Malformed,
      Bool.not_eq_true]

/-- An empty value at the end, a value with equals signs, and a name that is white space. -/
theorem pairs_read_as_written_padded :
    let pairs := [("X-Env", "prod"), ("Auth", "Basic a=b="), ("Empty", "")]
    let plain : Lookup := fun _ => some "X-Env=prod,Auth=Basic a=b=,Empty="
    let padded : Lookup := fun _ => some " X-Env = prod ,,Auth=Basic a=b=\t, \n,Empty="
    let nameless : Lookup := fun _ => some "X-Env=prod, = growth"
    (∀ p ∈ pairs, Writable p) ∧ plain.pairs? "HEADERS" = .ok pairs ∧
      padded.pairs? "HEADERS" = .ok pairs ∧ ∃ e, nameless.pairs? "HEADERS" = .error e := by
  intro pairs plain padded nameless
  have hpairs : ∀ p ∈ pairs, Writable p := by
    simp only [pairs, List.forall_mem_cons, List.not_mem_nil, false_imp_iff, implies_true, and_true]
    refine ⟨?_, ?_, ?_⟩ <;>
      exact ⟨by decide, by decide, by decide, by decide, by decide, by decide⟩
  let pieces := [" X-Env = prod ".toList, [], "Auth=Basic a=b=\t".toList, " \n".toList,
    "Empty=".toList]
  have hspells : Spells pieces pairs := by
    have hspace : Blank [' '] := rfl
    have hspaced (s : List Char) : Padded s ([' '] ++ s ++ [' ']) :=
      ⟨[' '], [' '], hspace, hspace, rfl⟩
    have hkept (s : List Char) : Padded s s := ⟨[], [], rfl, rfl, by simp⟩
    have htab : Padded "Basic a=b=".toList "Basic a=b=\t".toList :=
      ⟨[], ['\t'], by decide, by decide, rfl⟩
    have hlast : Spells ["Empty=".toList] [("Empty", "")] :=
      .pair (hkept "Empty".toList) (hkept "".toList) .done
    have hauth : Spells ["Auth=Basic a=b=\t".toList, " \n".toList, "Empty=".toList]
        [("Auth", "Basic a=b="), ("Empty", "")] :=
      .pair (hkept "Auth".toList) htab (.blank (by decide) hlast)
    exact .pair (hspaced "X-Env".toList) (hspaced "prod".toList) (.blank (by decide) hauth)
  refine ⟨hpairs, ?_, ?_, ?_⟩
  · exact (pairs_read_as_written plain "HEADERS").1 pairs hpairs rfl
  · exact (pairs_read_as_written padded "HEADERS").2.1 pieces pairs hpairs hspells rfl
  · refine ((pairs_read_as_written nameless "HEADERS").2.2 _ rfl).2
      ⟨" = growth".toList, by decide, by decide, .inr (by decide)⟩

end FeatureFlags.Lookup
