import FeatureFlags.Proofs.Url.Written

/-!
# Reading what is written

Decoding undoes encoding in every part in which percent signs are encoded: first for a byte, then
for a character, then for a text (`decoded?_encode`). Names of directories decode to full stops, so
that no other text is written as one of them (`isDot_encode`). The segments of a path can be read
off its text (`segments_inj`), and so URLs that differ in their segments differ in their texts.
-/
namespace FeatureFlags.Url

variable {p : Part} {s t : List Char} {c : Char}

/-- The text that an encoded one stands for, if its bytes are those of a text. -/
def decoded? (s : List Char) : Option String := String.fromUTF8? ⟨(percentDecode s).toArray⟩

/-! ## Bytes, characters, texts -/

theorem encodeChar_of_kept {c : Char} (h : p.encodes c = false) : p.encodeChar c = [c] := by
  rw [Part.encodeChar, h]
  rfl

theorem encode_cons (p : Part) (c : Char) (s : List Char) :
    p.encode (c :: s) = p.encodeChar c ++ p.encode s := List.flatMap_cons

theorem encode_of_kept (h : ∀ c ∈ s, p.encodes c = false) : p.encode s = s := by
  induction s with
  | nil => rfl
  | cons c s ih =>
    obtain ⟨hc, hs⟩ := List.forall_mem_cons.1 h
    rw [encode_cons, encodeChar_of_kept hc, ih hs]
    rfl

theorem hexValue?_upperHexDigit {n : Nat} (h : n < 16) :
    Text.hexValue? (upperHexDigit n) = some n := by
  have hdigits : ∀ m < 16, Text.hexValue? (upperHexDigit m) = some m := by decide
  exact hdigits n h

theorem percentDecode_encodeByte (b : UInt8) (rest : List Char) :
    percentDecode (encodeByte b ++ rest) = b :: percentDecode rest := by
  have hbound : b.toNat < 256 := b.toNat_lt
  have hhigh := hexValue?_upperHexDigit (n := b.toNat / 16) (by omega)
  have hlow := hexValue?_upperHexDigit (n := b.toNat % 16) (by omega)
  have hbyte : UInt8.ofNat (16 * (b.toNat / 16) + b.toNat % 16) = b := by
    rw [Nat.div_add_mod, UInt8.ofNat_toNat]
  rw [encodeByte, List.cons_append, List.cons_append, List.singleton_append, percentDecode]
  simp only [hhigh, hlow, hbyte]

theorem percentDecode_encodeBytes (bytes : List UInt8) (rest : List Char) :
    percentDecode (bytes.flatMap encodeByte ++ rest) = bytes ++ percentDecode rest := by
  induction bytes with
  | nil => rfl
  | cons b bytes ih =>
    rw [List.flatMap_cons, List.append_assoc, percentDecode_encodeByte, ih, List.cons_append]

theorem percentDecode_cons (h : c ≠ '%') (rest : List Char) :
    percentDecode (c :: rest) = String.utf8EncodeChar c ++ percentDecode rest := by
  rw [percentDecode]
  exact fun _ _ _ hpercent => absurd hpercent h

theorem percentDecode_encodeChar (h : p.encodes '%' = true) (c : Char) (rest : List Char) :
    percentDecode (p.encodeChar c ++ rest) = String.utf8EncodeChar c ++ percentDecode rest := by
  rw [Part.encodeChar]
  split
  next => exact percentDecode_encodeBytes _ rest
  next hkept =>
    have hne : c ≠ '%' := by
      rintro rfl
      exact hkept h
    exact percentDecode_cons hne rest

theorem percentDecode_encode (h : p.encodes '%' = true) (s : List Char) :
    percentDecode (p.encode s) = s.flatMap String.utf8EncodeChar := by
  induction s with
  | nil => rfl
  | cons c s ih => rw [encode_cons, percentDecode_encodeChar h, ih, List.flatMap_cons]

theorem decoded?_of_bytes (h : percentDecode s = t.flatMap String.utf8EncodeChar) :
    decoded? s = some (String.ofList t) := by
  have hbytes : (⟨(percentDecode s).toArray⟩ : ByteArray) = (String.ofList t).toByteArray := by
    rw [h, String.toByteArray_ofList, List.utf8Encode]
    exact ByteArray.ext List.data_toByteArray.symm
  have hvalid : (String.ofList t).toByteArray.IsValidUTF8 := (String.ofList t).isValidUTF8
  rw [decoded?, hbytes, String.fromUTF8?, dif_pos hvalid]
  rfl

theorem decoded?_encode (h : p.encodes '%' = true) (s : List Char) :
    decoded? (p.encode s) = some (String.ofList s) :=
  decoded?_of_bytes (percentDecode_encode h s)

theorem encode_inj (h : p.encodes '%' = true) (heq : p.encode s = p.encode t) : s = t := by
  have hdecoded := decoded?_encode h s
  rw [heq, decoded?_encode h t] at hdecoded
  exact (String.ofList_injective (Option.some.inj hdecoded)).symm

theorem encodes_percent (special : Bool) : (Part.segment special).encodes '%' = true := by
  cases special <;> rfl

theorem keeps_dot (special : Bool) : (Part.segment special).encodes '.' = false := by
  cases special <;> rfl

/-! ## Names of directories -/

theorem eq_of_map_toLower {t : List Char} (h : s.map Char.toLower = t)
    (ht : t.any Char.isLower = false) : s = t := by
  subst h
  induction s with
  | nil => rfl
  | cons c s ih =>
    obtain ⟨hc, hs⟩ := Bool.or_eq_false_iff.1 ht
    rw [List.map_cons, ← ih hs, ← eq_of_toLower_eq rfl hc]

theorem toLower_eq_of_mem {names : List String} {s : List Char}
    (h : names.contains (String.ofList (s.map Char.toLower)) = true) :
    s.map Char.toLower ∈ names.map String.toList := by
  have hmem := List.mem_map_of_mem (f := String.toList) (List.contains_iff_mem.1 h)
  rwa [String.toList_ofList] at hmem

theorem toLower_eq_e (h : c.toLower = 'e') : c = 'e' ∨ c = 'E' := by
  have hletters : ∀ n < 91, 65 ≤ n → (Char.ofNat n).toLower = 'e' → Char.ofNat n = 'E' := by decide
  rcases toLower_eq_or c with hkept | ⟨hfrom, hupto⟩
  · exact .inl (hkept.symm.trans h)
  · have hcapital := hletters c.toNat (by omega) hfrom
    rw [Char.ofNat_toNat] at hcapital
    exact .inr (hcapital h)

/-- A full stop may be encoded, with a digit in either case. -/
theorem percentDecode_dot (h : s.map Char.toLower = ['.'] ∨ s.map Char.toLower = "%2e".toList)
    (rest : List Char) : percentDecode (s ++ rest) = 46 :: percentDecode rest := by
  rcases h with h | h
  · obtain rfl := eq_of_map_toLower h rfl
    exact percentDecode_cons (by decide) rest
  · obtain ⟨a, _, rfl, ha, h⟩ := List.map_eq_cons_iff.1 h
    obtain ⟨b, _, rfl, hb, h⟩ := List.map_eq_cons_iff.1 h
    obtain ⟨c, _, rfl, hc, h⟩ := List.map_eq_cons_iff.1 h
    obtain rfl := List.map_eq_nil_iff.1 h
    obtain rfl := eq_of_toLower_eq ha rfl
    obtain rfl := eq_of_toLower_eq hb rfl
    rcases toLower_eq_e hc with rfl | rfl <;> rfl

theorem decoded?_of_isDot (h : isDot s = true) : decoded? s = some "." := by
  have hname : s.map Char.toLower ∈ [['.'], "%2e".toList] := toLower_eq_of_mem h
  simp only [List.mem_cons, List.not_mem_nil, or_false] at hname
  refine decoded?_of_bytes (t := ['.']) ?_
  rw [← List.append_nil s, percentDecode_dot hname]
  rfl

theorem decoded?_of_isDoubleDot (h : isDoubleDot s = true) : decoded? s = some ".." := by
  have hname : s.map Char.toLower ∈
      [['.', '.'], ".%2e".toList, "%2e.".toList, "%2e%2e".toList] := toLower_eq_of_mem h
  have hparts : ∃ x y, s.map Char.toLower = x ++ y ∧ (x = ['.'] ∨ x = "%2e".toList) ∧
      (y = ['.'] ∨ y = "%2e".toList) := by
    simp only [List.mem_cons, List.not_mem_nil, or_false] at hname
    rcases hname with hname | hname | hname | hname
    · exact ⟨_, _, hname, .inl rfl, .inl rfl⟩
    · exact ⟨_, _, hname, .inl rfl, .inr rfl⟩
    · exact ⟨_, _, hname, .inr rfl, .inl rfl⟩
    · exact ⟨_, _, hname, .inr rfl, .inr rfl⟩
  obtain ⟨x, y, hname, hx, hy⟩ := hparts
  obtain ⟨front, back, rfl, rfl, rfl⟩ := List.map_eq_append_iff.1 hname
  refine decoded?_of_bytes (t := ['.', '.']) ?_
  rw [percentDecode_dot hx, ← List.append_nil back, percentDecode_dot hy]
  rfl

theorem isDot_encode (h : p.encodes '%' = true) (hdot : p.encodes '.' = false) :
    isDot (p.encode s) = true ↔ s = ['.'] := by
  constructor
  · intro hname
    have hdecoded := decoded?_of_isDot hname
    rw [decoded?_encode h] at hdecoded
    exact String.ofList_injective (Option.some.inj hdecoded)
  · rintro rfl
    rw [encode_of_kept (by simpa using hdot)]
    rfl

theorem isDoubleDot_encode (h : p.encodes '%' = true) (hdot : p.encodes '.' = false) :
    isDoubleDot (p.encode s) = true ↔ s = ['.', '.'] := by
  constructor
  · intro hname
    have hdecoded := decoded?_of_isDoubleDot hname
    rw [decoded?_encode h] at hdecoded
    exact String.ofList_injective (Option.some.inj hdecoded)
  · rintro rfl
    rw [encode_of_kept (by simpa using hdot)]
    rfl

/-! ## Segments -/

theorem slash_not_mem (h : Open s) : '/' ∉ s := fun hmem => absurd (h _ hmem) (by decide)

/-- A segment ends where the next one starts. -/
theorem takeWhile_segment (h : Open s) (rest : List (List Char)) :
    (s ++ (Path.segments rest).chars).takeWhile (· ≠ '/') = s := by
  have hopen : ∀ c ∈ s, decide (c ≠ '/') = true := by
    intro c hc
    refine decide_eq_true fun heq => ?_
    exact slash_not_mem h (heq ▸ hc)
  have hrest : ((Path.segments rest).chars).takeWhile (· ≠ '/') = [] := by
    cases rest with
    | nil => rfl
    | cons segment rest => exact List.takeWhile_cons_of_neg (by decide)
  rw [List.takeWhile_append_of_pos hopen, hrest, List.append_nil]

theorem segments_inj {as bs : List (List Char)} (has : ∀ x ∈ as, Open x) (hbs : ∀ x ∈ bs, Open x)
    (h : (Path.segments as).chars = (Path.segments bs).chars) : as = bs := by
  induction as generalizing bs with
  | nil =>
    cases bs with
    | nil => rfl
    | cons b bs => cases h
  | cons a as ih =>
    cases bs with
    | nil => cases h
    | cons b bs =>
      obtain ⟨ha, has⟩ := List.forall_mem_cons.1 has
      obtain ⟨hb, hbs⟩ := List.forall_mem_cons.1 hbs
      have hbehind : a ++ (Path.segments as).chars = b ++ (Path.segments bs).chars :=
        (List.cons.inj h).2
      have hsame : a = b := by
        rw [← takeWhile_segment ha as, hbehind, takeWhile_segment hb bs]
      rw [hsame] at hbehind ⊢
      rw [ih has hbs (List.append_cancel_left hbehind)]

/-- What stands around the path of a URL does not hang on the path. -/
theorem chars_eq_iff_of_path {u : Url} {a b : Path} :
    ({ u with path := a } : Url).chars = ({ u with path := b } : Url).chars ↔
      a.chars = b.chars := by
  simp only [Url.chars, List.append_left_inj, List.append_right_inj]

theorem text_segments_eq_iff {u : Url} {as bs : List (List Char)} (has : ∀ x ∈ as, Open x)
    (hbs : ∀ x ∈ bs, Open x) :
    ({ u with path := .segments as } : Url).text = ({ u with path := .segments bs } : Url).text ↔
      as = bs := by
  refine ⟨fun h => ?_, fun h => h ▸ rfl⟩
  exact segments_inj has hbs (chars_eq_iff_of_path.1 (String.ofList_injective h))

end FeatureFlags.Url
