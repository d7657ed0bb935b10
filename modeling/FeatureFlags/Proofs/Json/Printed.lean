import FeatureFlags.Proofs.Json.Layouts

/-!
# Values as they are written

What is written for a value is read back as that value, member for member and in the same order
(`ofText?_render`), so that two values with one text are the same value (`Json.render_inj`). Values
may nest to any depth here; readers that limit the depth come later.
-/
namespace FeatureFlags

open Text (Symbol)

namespace Document

mutual

/-- The document of a value. -/
def ofJson : Json → Document
  | .null => .null
  | .bool b => .bool b
  | .number n => .number (some n)
  | .text s => .text (some s)
  | .array items => .array (itemsOfJson items)
  | .object members => .object (membersOfJson members)

def itemsOfJson : List Json → List Document
  | [] => []
  | item :: rest => ofJson item :: itemsOfJson rest

def membersOfJson : List (String × Json) → List (Option String × Document)
  | [] => []
  | (name, value) :: rest => (some name, ofJson value) :: membersOfJson rest

end

mutual

theorem ofJson_inj : ∀ {j j' : Json}, ofJson j = ofJson j' → j = j'
  | .null, j', h => by cases j' <;> simp_all [ofJson]
  | .bool _, j', h => by cases j' <;> simp_all [ofJson]
  | .number _, j', h => by cases j' <;> simp_all [ofJson]
  | .text _, j', h => by cases j' <;> simp_all [ofJson]
  | .array items, .array items', h => by
    rw [ofJson, ofJson] at h
    rw [itemsOfJson_inj (Document.array.inj h)]
  | .object members, .object members', h => by
    rw [ofJson, ofJson] at h
    rw [membersOfJson_inj (Document.object.inj h)]
  | .array _, .null, h | .array _, .bool _, h | .array _, .number _, h | .array _, .text _, h
  | .array _, .object _, h | .object _, .null, h | .object _, .bool _, h | .object _, .number _, h
  | .object _, .text _, h | .object _, .array _, h => by simp [ofJson] at h

theorem itemsOfJson_inj : ∀ {items items' : List Json},
    itemsOfJson items = itemsOfJson items' → items = items'
  | [], [], _ => rfl
  | [], _ :: _, h | _ :: _, [], h => by simp [itemsOfJson] at h
  | item :: rest, item' :: rest', h => by
    obtain ⟨hitem, hrest⟩ := List.cons.inj h
    rw [ofJson_inj hitem, itemsOfJson_inj hrest]

theorem membersOfJson_inj : ∀ {members members' : List (String × Json)},
    membersOfJson members = membersOfJson members' → members = members'
  | [], [], _ => rfl
  | [], _ :: _, h | _ :: _, [], h => by simp [membersOfJson] at h
  | (name, value) :: rest, (name', value') :: rest', h => by
    obtain ⟨hmember, hrest⟩ := List.cons.inj h
    obtain ⟨hname, hvalue⟩ := Prod.mk.inj hmember
    rw [Option.some.inj hname, ofJson_inj hvalue, membersOfJson_inj hrest]

end

/-! ## Strings -/

/-- A character below the blank from the digits of its code. -/
theorem unit?_hex {n : Nat} (h : n < 32) :
    unit? (some '0') (some '0') (some (Text.hexDigit (n / 16))) (some (Text.hexDigit (n % 16))) =
      some n := by
  have hall : ∀ m < 32, unit? (some '0') (some '0') (some (Text.hexDigit (m / 16)))
      (some (Text.hexDigit (m % 16))) = some m := by decide
  exact hall n h

theorem eq_of_toNat {c : Char} {n : Nat} (h : c.toNat = n) : c = Char.ofNat n := by
  rw [← h, Char.ofNat_toNat]

theorem unescape?_short {c e : Char} (h : Json.shortEscape? c = some e) :
    unescape? e = some c ∧ e ≠ 'u' := by
  rw [Json.shortEscape?] at h
  split at h
  next hquoted =>
    obtain rfl := Option.some.inj h
    rcases hquoted with rfl | rfl <;> decide
  next =>
    split at h
    next hn => cases h; rw [eq_of_toNat hn]; decide
    next hn => cases h; rw [eq_of_toNat hn]; decide
    next hn => cases h; rw [eq_of_toNat hn]; decide
    next hn => cases h; rw [eq_of_toNat hn]; decide
    next hn => cases h; rw [eq_of_toNat hn]; decide
    next => cases h

/-- A character that is written as it is, if it is not below the blank. -/
theorem plain_of_shortEscape? {c : Char} (h : Json.shortEscape? c = none) :
    c ≠ '"' ∧ c ≠ '\\' := by
  rw [Json.shortEscape?] at h
  split at h
  next => cases h
  next hplain => exact not_or.1 hplain

theorem ofUnit_of_low {c : Char} (h : c.toNat < 32) : Piece.ofUnit c.toNat = .char c := by
  have hsurrogate : ¬(0xD800 ≤ c.toNat ∧ c.toNat < 0xE000) := by omega
  rw [Piece.ofUnit, if_neg hsurrogate, Char.ofNat_toNat]

theorem readPieces?_escape (c : Char) (rest : List Symbol) :
    readPieces? ((Json.escape c).map some ++ rest) =
      (readPieces? rest).map fun r => (.char c :: r.1, r.2) := by
  rw [Json.escape]
  rcases hshort : Json.shortEscape? c with _ | e
  · obtain ⟨hquote, hback⟩ := plain_of_shortEscape? hshort
    dsimp only
    split
    next hlow =>
      simp only [List.map_cons, List.map_nil, List.cons_append, List.nil_append]
      rw [readPieces?, unit?_hex hlow]
      cases readPieces? rest with
      | none => rfl
      | some r => simp [ofUnit_of_low hlow]
    next hhigh =>
      have hreadable : ¬(c.toNat < 32 ∨ c = '\\') := not_or.2 ⟨hhigh, hback⟩
      simp only [List.map_cons, List.map_nil, List.cons_append, List.nil_append]
      rw [readPieces?, if_neg hreadable]
      · cases readPieces? rest with
        | none => rfl
        | some r => rfl
      all_goals simp [hquote, hback]
  · obtain ⟨hchar, hletter⟩ := unescape?_short hshort
    simp only [List.map_cons, List.map_nil, List.cons_append, List.nil_append]
    rw [readPieces?, hchar]
    · cases readPieces? rest with
      | none => rfl
      | some r => rfl
    · simp [hletter]

theorem readPieces?_append (cs : List Char) (rest : List Symbol) :
    readPieces? ((cs.flatMap Json.escape).map some ++ some '"' :: rest) =
      some (cs.map .char, rest) := by
  induction cs with
  | nil => rfl
  | cons c cs ih =>
    rw [List.flatMap_cons, List.map_append, List.append_assoc, readPieces?_escape, ih]
    rfl

theorem assemble?_chars (cs : List Char) : Piece.assemble? (cs.map .char) = some cs := by
  induction cs with
  | nil => rfl
  | cons c cs ih =>
    rw [List.map_cons, Piece.assemble?, ih]
    rfl

/-- A string is read behind its opening quote. -/
theorem readText?_append (s : String) (rest : List Symbol) :
    readText? ((s.toList.flatMap Json.escape).map some ++ some '"' :: rest) =
      some (some s, rest) := by
  rw [readText?, readPieces?_append]
  simp [assemble?_chars]

/-! ## Values -/

/-- A character with which a number starts. -/
def NumberLead (c : Char) : Prop := c = '-' ∨ c.isDigit = true

theorem number_lead (n : Json.Number) : ∃ c rest, n.chars = c :: rest ∧ NumberLead c := by
  obtain ⟨negative, s, hchars, -⟩ := spells_number n
  obtain ⟨c, whole, hwhole⟩ := List.exists_cons_of_ne_nil s.whole_ne_nil
  cases negative with
  | true => exact ⟨'-', s.chars, hchars, .inl rfl⟩
  | false =>
    refine ⟨c, whole ++ (s.fractionChars ++ s.exponentChars), ?_,
      .inr (s.whole_digits c (hwhole ▸ List.mem_cons_self))⟩
    rw [hchars, Spelling.chars, hwhole]
    rfl

instance : DecidablePred NumberLead := fun c =>
  inferInstanceAs (Decidable (c = '-' ∨ c.isDigit = true))

theorem NumberLead.ne {c d : Char} (h : NumberLead c) (hd : ¬NumberLead d) : c ≠ d :=
  fun e => hd (e ▸ h)

theorem NumberLead.not_blank {c : Char} (h : NumberLead c) : isBlank c = false := by
  have hblank : c ≠ ' ' := h.ne (by decide)
  have htab : c ≠ '\t' := h.ne (by decide)
  have hfeed : c ≠ '\n' := h.ne (by decide)
  have hreturn : c ≠ '\r' := h.ne (by decide)
  simp [isBlank, hblank, htab, hfeed, hreturn]

/-- The first character of a value is neither a blank nor a closing bracket. -/
theorem chars_lead (j : Json) : ∃ c rest, j.chars = c :: rest ∧ isBlank c = false ∧ c ≠ ']' := by
  cases j with
  | null => exact ⟨'n', _, rfl, rfl, by decide⟩
  | bool b => cases b <;> exact ⟨_, _, rfl, rfl, by decide⟩
  | number n =>
    obtain ⟨c, rest, hchars, hlead⟩ := number_lead n
    exact ⟨c, rest, hchars, hlead.not_blank, hlead.ne (by decide)⟩
  | text s => exact ⟨'"', _, rfl, rfl, by decide⟩
  | array items => exact ⟨'[', _, rfl, rfl, by decide⟩
  | object members => exact ⟨'{', _, rfl, rfl, by decide⟩

theorem skipBlanks_of_lead {c : Char} (hc : isBlank c = false) (s : List Symbol) :
    skipBlanks (some c :: s) = some c :: s := by
  simp [skipBlanks, hc]

/-- A number is read where no other value starts. -/
theorem read?_number (n : Json.Number) {rest : List Symbol} (fuel : Nat) (hend : NumberEnds rest) :
    read? (fuel + 1) (n.chars.map some ++ rest) = some (.number (some n), rest) := by
  obtain ⟨numeral, hread, hvalue⟩ := readNumeral?_chars n hend
  obtain ⟨c, more, hchars, hlead⟩ := number_lead n
  rw [hchars, List.map_cons, List.cons_append] at hread ⊢
  rw [read?, skipBlanks_of_lead hlead.not_blank]
  split
  case h_7 =>
    rw [hread]
    simp [hvalue]
  -- the other values start with other characters
  all_goals
    rename_i heq
    cases heq
    exact absurd hlead (by decide)

theorem numberEnds_cons {c : Char} (hc : c = ',' ∨ c = ']' ∨ c = '}') (s : List Symbol) :
    NumberEnds (some c :: s) := by
  intro d hd
  obtain rfl := Option.some.inj (Option.some.inj hd)
  rcases hc with rfl | rfl | rfl <;> decide

section

variable {fuel : Nat} {s behind rest : List Symbol} {d : Document} {items : List Document}
  {members : List (Option String × Document)} {name : String}

theorem read?_text (s : String) (fuel : Nat) (rest : List Symbol) :
    read? (fuel + 1) ((Json.textChars s).map some ++ rest) = some (.text (some s), rest) := by
  have hs := readText?_append s rest
  simp only [Json.textChars, List.map_cons, List.map_append, List.map_nil, List.cons_append,
    List.append_assoc, List.nil_append]
  rw [read?, skipBlanks_of_lead rfl]
  simp only [hs, Option.map_some]

theorem read?_array {c : Char} (hblank : isBlank c = false) (hopen : c ≠ ']')
    (hitems : readItems? fuel (some c :: s) = some (items, rest)) :
    read? (fuel + 1) (some '[' :: some c :: s) = some (.array items, rest) := by
  rw [read?, skipBlanks_of_lead rfl]
  simp only [skipBlanks_of_lead hblank]
  split
  next heq => exact absurd (Option.some.inj (List.cons.inj heq).1) hopen
  next =>
    rw [hitems]
    rfl

theorem readItems?_last (hitem : read? fuel s = some (d, some ']' :: rest)) :
    readItems? (fuel + 1) s = some ([d], rest) := by
  have hblank : isBlank ']' = false := rfl
  simp only [readItems?, hitem, Option.bind_eq_bind, Option.bind_some, skipBlanks_of_lead hblank]
  rfl

theorem readItems?_next (hitem : read? fuel s = some (d, some ',' :: behind))
    (hitems : readItems? fuel behind = some (items, rest)) :
    readItems? (fuel + 1) s = some (d :: items, rest) := by
  have hblank : isBlank ',' = false := rfl
  simp only [readItems?, hitem, Option.bind_eq_bind, Option.bind_some, skipBlanks_of_lead hblank,
    hitems]
  rfl

/-- The text of a member up to its value. -/
def memberSymbols (name : String) : List Symbol := (Json.textChars name ++ [':']).map some

theorem memberSymbols_append (name : String) (s : List Symbol) : memberSymbols name ++ s =
    some '"' :: ((name.toList.flatMap Json.escape).map some ++ some '"' :: some ':' :: s) := by
  simp [memberSymbols, Json.textChars]

theorem map_memberChars (name : String) (value : List Char) :
    (Json.memberChars name value).map some = memberSymbols name ++ value.map some := by
  simp [Json.memberChars, memberSymbols]

theorem length_memberChars (name : String) (value : List Char) :
    value.length < (Json.memberChars name value).length := by
  simp [Json.memberChars]
  omega

theorem read?_object (hmembers : readMembers? fuel (some '"' :: s) = some (members, rest)) :
    read? (fuel + 1) (some '{' :: some '"' :: s) = some (.object members, rest) := by
  have hblank : isBlank '"' = false := rfl
  rw [read?, skipBlanks_of_lead rfl]
  simp only [skipBlanks_of_lead hblank]
  split
  next heq => exact absurd (Option.some.inj (List.cons.inj heq).1) (by decide)
  next =>
    rw [hmembers]
    rfl

theorem readMembers?_last (hvalue : read? fuel s = some (d, some '}' :: rest)) :
    readMembers? (fuel + 1) (memberSymbols name ++ s) = some ([(some name, d)], rest) := by
  have hname := readText?_append name (some ':' :: s)
  rw [memberSymbols_append, readMembers?, skipBlanks_of_lead rfl]
  have hcolon : isBlank ':' = false := rfl
  have hblank : isBlank '}' = false := rfl
  simp only [hname, hvalue, Option.bind_eq_bind, Option.bind_some, skipBlanks_of_lead hcolon,
    skipBlanks_of_lead hblank]
  rfl

theorem readMembers?_next (hvalue : read? fuel s = some (d, some ',' :: behind))
    (hmembers : readMembers? fuel behind = some (members, rest)) :
    readMembers? (fuel + 1) (memberSymbols name ++ s) = some ((some name, d) :: members, rest) := by
  have hname := readText?_append name (some ':' :: s)
  rw [memberSymbols_append, readMembers?, skipBlanks_of_lead rfl]
  have hcolon : isBlank ':' = false := rfl
  have hblank : isBlank ',' = false := rfl
  simp only [hname, hvalue, hmembers, Option.bind_eq_bind, Option.bind_some,
    skipBlanks_of_lead hcolon, skipBlanks_of_lead hblank]
  rfl

end

/-- Texts with commas between them. -/
theorem joined_cons {text next : List Char} {texts : List (List Char)} :
    List.intercalate [','] (text :: next :: texts) =
      text ++ ',' :: List.intercalate [','] (next :: texts) := by
  rw [List.intercalate_cons_cons, List.append_assoc]
  rfl

theorem joined_singleton (text : List Char) : List.intercalate [','] [text] = text := by
  simp [List.intercalate]

/-- Texts with commas between them start as the first of them. -/
theorem joined_lead {text : List Char} {c : Char} {more : List Char} (h : text = c :: more)
    (texts : List (List Char)) :
    ∃ more, List.intercalate [','] (text :: texts) = c :: more := by
  rw [h]
  cases texts with
  | nil => exact ⟨more, joined_singleton _⟩
  | cons next texts => exact ⟨_, joined_cons⟩

mutual

theorem read?_chars : ∀ (j : Json) {fuel : Nat} {rest : List Symbol},
    2 * j.chars.length ≤ fuel → NumberEnds rest →
    read? fuel (j.chars.map some ++ rest) = some (ofJson j, rest)
  | .null, _ + 1, _, _, _ => by
    simp [Json.chars, read?, skipBlanks, isBlank, afterWord?, ofJson]
  | .bool true, _ + 1, _, _, _ => by
    simp [Json.chars, read?, skipBlanks, isBlank, afterWord?, ofJson]
  | .bool false, _ + 1, _, _, _ => by
    simp [Json.chars, read?, skipBlanks, isBlank, afterWord?, ofJson]
  | .number n, fuel + 1, _, _, hend => by rw [Json.chars, read?_number n fuel hend, ofJson]
  | .text s, fuel + 1, rest, _, _ => by rw [Json.chars, read?_text s fuel rest, ofJson]
  | .array [], _ + 1, _, _, _ => by
    simp [Json.chars, Json.itemsChars, Json.enclose, read?, skipBlanks, isBlank, ofJson,
      itemsOfJson]
  | .array (item :: items), fuel + 1, rest, hfuel, _ => by
    obtain ⟨c, tail, hitem, hblank, hopen⟩ := chars_lead item
    obtain ⟨more, hmore⟩ := joined_lead hitem (Json.itemsChars items)
    rw [Json.chars, Json.enclose] at hfuel
    simp only [List.length_cons, List.length_append, List.length_nil] at hfuel
    have hitems : readItems? fuel (_ ++ some ']' :: rest) = _ :=
      readItems?_chars (item :: items) (List.cons_ne_nil _ _) (by omega)
    rw [Json.itemsChars, hmore] at hitems
    rw [Json.chars, Json.enclose, Json.itemsChars, hmore, ofJson]
    simpa using read?_array hblank hopen hitems
  | .object [], _ + 1, _, _, _ => by
    simp [Json.chars, Json.membersChars, Json.enclose, read?, skipBlanks, isBlank, ofJson,
      membersOfJson]
  | .object ((name, value) :: members), fuel + 1, rest, hfuel, _ => by
    obtain ⟨more, hmore⟩ := joined_lead (show Json.memberChars name value.chars = '"' :: _ from rfl)
      (Json.membersChars members)
    rw [Json.chars, Json.enclose] at hfuel
    simp only [List.length_cons, List.length_append, List.length_nil] at hfuel
    have hmembers : readMembers? fuel (_ ++ some '}' :: rest) = _ :=
      readMembers?_chars ((name, value) :: members) (List.cons_ne_nil _ _) (by omega)
    rw [Json.membersChars, hmore] at hmembers
    rw [Json.chars, Json.enclose, Json.membersChars, hmore, ofJson]
    simpa using read?_object hmembers
  | j, 0, _, hfuel, _ => by
    obtain ⟨c, more, hchars, -⟩ := chars_lead j
    rw [hchars, List.length_cons] at hfuel
    omega

theorem readItems?_chars : ∀ (items : List Json) {fuel : Nat} {rest : List Symbol},
    items ≠ [] → 2 * (List.intercalate [','] (Json.itemsChars items)).length + 1 ≤ fuel →
    readItems? fuel ((List.intercalate [','] (Json.itemsChars items)).map some ++
      some ']' :: rest) = some (itemsOfJson items, rest)
  | [], _, _, hne, _ => absurd rfl hne
  | _ :: _, 0, _, _, hfuel => absurd hfuel (Nat.not_succ_le_zero _)
  | [item], fuel + 1, rest, _, hfuel => by
    rw [Json.itemsChars, Json.itemsChars, joined_singleton] at hfuel ⊢
    exact readItems?_last (read?_chars item (by omega) (numberEnds_cons (by simp) rest))
  | item :: next :: items, fuel + 1, rest, _, hfuel => by
    rw [Json.itemsChars, Json.itemsChars, joined_cons] at hfuel ⊢
    rw [List.length_append, List.length_cons] at hfuel
    have hitems : readItems? fuel (_ ++ some ']' :: rest) = _ :=
      readItems?_chars (next :: items) (List.cons_ne_nil _ _) (by rw [Json.itemsChars]; omega)
    rw [List.map_append, List.append_assoc, List.map_cons, List.cons_append]
    exact readItems?_next (read?_chars item (by omega) (numberEnds_cons (by simp) _)) hitems

theorem readMembers?_chars : ∀ (members : List (String × Json)) {fuel : Nat} {rest : List Symbol},
    members ≠ [] → 2 * (List.intercalate [','] (Json.membersChars members)).length + 1 ≤ fuel →
    readMembers? fuel ((List.intercalate [','] (Json.membersChars members)).map some ++
      some '}' :: rest) = some (membersOfJson members, rest)
  | [], _, _, hne, _ => absurd rfl hne
  | _ :: _, 0, _, _, hfuel => absurd hfuel (Nat.not_succ_le_zero _)
  | [(name, value)], fuel + 1, rest, _, hfuel => by
    rw [Json.membersChars, Json.membersChars, joined_singleton] at hfuel ⊢
    have hlength := length_memberChars name value.chars
    rw [map_memberChars, List.append_assoc]
    exact readMembers?_last (read?_chars value (by omega) (numberEnds_cons (by simp) rest))
  | (name, value) :: next :: members, fuel + 1, rest, _, hfuel => by
    rw [Json.membersChars, Json.membersChars, joined_cons] at hfuel ⊢
    rw [List.length_append, List.length_cons] at hfuel
    have hlength := length_memberChars name value.chars
    have hmembers : readMembers? fuel (_ ++ some '}' :: rest) = _ :=
      readMembers?_chars (next :: members) (List.cons_ne_nil _ _)
        (by rw [Json.membersChars]; omega)
    rw [List.map_append, List.append_assoc, List.map_cons, List.cons_append, map_memberChars,
      List.append_assoc]
    exact readMembers?_next (read?_chars value (by omega) (numberEnds_cons (by simp) _)) hmembers

end

/-- The text of a value is read as the document of the value. -/
theorem ofText?_render (j : Json) : ofText? j.render = some (ofJson j) := by
  have hsymbols : Text.symbolsOfText j.render = j.chars.map some ++ [] := by
    rw [Text.symbolsOfText, Json.render, String.toList_ofList, List.append_nil]
  have hread : read? (2 * (j.chars.map some ++ []).length + 1) (j.chars.map some ++ []) =
      some (ofJson j, []) := read?_chars j (by simp) nofun
  rw [ofText?, ofSymbols?, hsymbols, hread]
  rfl

end Document

/-- Values with the same text are the same. -/
theorem Json.render_inj {j j' : Json} (h : j.render = j'.render) : j = j' := by
  have hread := Document.ofText?_render j
  rw [h, Document.ofText?_render] at hread
  exact (Document.ofJson_inj (Option.some.inj hread)).symm

end FeatureFlags
