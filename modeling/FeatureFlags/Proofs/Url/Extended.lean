import FeatureFlags.Proofs.Url.Decoded
import FeatureFlags.Url.Segments

/-!
# Texts as segments

A text that is added to a path stands in it as it is, unless a character of it has to be encoded or
the text names a directory. Any other text is written differently, or adds nothing: what stands at
the end of the path is never the text itself (`pushSegment_cases`).
-/
namespace FeatureFlags.Url

variable {p : Part} {s : List Char} {special : Bool} {text : String}

/-- A text that stands for itself as a segment. -/
def IsSegment (special : Bool) (text : String) : Prop :=
  text ≠ "." ∧ text ≠ ".." ∧ ∀ c ∈ text.toList, (Part.segment special).encodes c = false

instance (special : Bool) (text : String) : Decidable (IsSegment special text) :=
  decidable_of_iff (text ≠ "." ∧ text ≠ ".." ∧
    text.toList.all (fun c => !(Part.segment special).encodes c) = true) (by simp [IsSegment])

/-- What a text is written as in a path. -/
def written (special : Bool) (text : String) : List Char :=
  (Part.segment special).encode (text.toList.filter fun c => !isIgnored c)

/-! ## Encoding -/

theorem two_lt_length_encodeChar {c : Char} (h : p.encodes c = true) :
    2 < (p.encodeChar c).length := by
  have hbytes : 0 < (String.utf8EncodeChar c).length := by
    rw [String.length_utf8EncodeChar]
    exact c.utf8Size_pos
  obtain ⟨b, rest, hcons⟩ := List.exists_cons_of_length_pos hbytes
  rw [Part.encodeChar, if_pos h, hcons, List.flatMap_cons, List.length_append]
  have hescape : (encodeByte b).length = 3 := rfl
  omega

theorem length_le_encode (p : Part) (s : List Char) : s.length ≤ (p.encode s).length := by
  induction s with
  | nil => exact Nat.le_refl 0
  | cons c s ih =>
    have hchar : 0 < (p.encodeChar c).length := by
      cases hc : p.encodes c with
      | false =>
        rw [encodeChar_of_kept hc]
        exact Nat.zero_lt_one
      | true => exact Nat.lt_trans (by decide) (two_lt_length_encodeChar hc)
    rw [encode_cons, List.length_append, List.length_cons]
    omega

/-- Escapes make a text longer, so only a text without them is written as itself. -/
theorem kept_of_encode_eq (h : p.encode s = s) : ∀ c ∈ s, p.encodes c = false := by
  induction s with
  | nil => simp
  | cons c s ih =>
    cases hc : p.encodes c with
    | false =>
      rw [encode_cons, encodeChar_of_kept hc] at h
      exact List.forall_mem_cons.2 ⟨hc, ih (List.cons.inj h).2⟩
    | true =>
      have hlong := two_lt_length_encodeChar hc
      have hrest := length_le_encode p s
      have hlength := congrArg List.length h
      rw [encode_cons, List.length_append, List.length_cons] at hlength
      omega

theorem encodes_of_isIgnored {c : Char} (h : isIgnored c = true) : p.encodes c = true := by
  have hunsafe : isUnsafe c = true := by
    simp only [isIgnored, Bool.or_eq_true, decide_eq_true_eq] at h
    rcases h with (rfl | rfl) | rfl <;> decide
  rw [Part.encodes, hunsafe, Bool.true_or]

theorem encode_counted_eq_iff :
    p.encode (s.filter fun c => !isIgnored c) = s ↔ ∀ c ∈ s, p.encodes c = false := by
  constructor
  · intro h
    have hcounted : s.filter (fun c => !isIgnored c) = s := by
      refine List.filter_eq_self.2 fun c hc => ?_
      rw [← h] at hc
      rcases mem_encode hc with ⟨hmem, -⟩ | hdigit
      · exact (List.mem_filter.1 hmem).2
      · have hdigits : "%0123456789ABCDEF".toList.all (!isIgnored ·) = true := by decide
        exact List.all_eq_true.1 hdigits c hdigit
    rw [hcounted] at h
    exact kept_of_encode_eq h
  · intro h
    have hcounted : s.filter (fun c => !isIgnored c) = s := by
      refine List.filter_eq_self.2 fun c hc => ?_
      cases hignored : isIgnored c with
      | false => rfl
      | true => exact absurd (encodes_of_isIgnored hignored) (Bool.eq_false_iff.1 (h c hc))
    rw [hcounted, encode_of_kept h]

theorem IsSegment.written_eq (h : IsSegment special text) : written special text = text.toList :=
  encode_counted_eq_iff.2 h.2.2

theorem toList_ne (h : text ≠ String.ofList s) : text.toList ≠ s := by
  rintro rfl
  exact h String.ofList_toList.symm

theorem IsSegment.isDot_eq (h : IsSegment special text) : isDot text.toList = false := by
  refine Bool.eq_false_iff.2 fun hdot => ?_
  rw [← encode_of_kept h.2.2, isDot_encode (encodes_percent special) (keeps_dot special)] at hdot
  exact toList_ne h.1 hdot

theorem IsSegment.isDoubleDot_eq (h : IsSegment special text) :
    isDoubleDot text.toList = false := by
  refine Bool.eq_false_iff.2 fun hdots => ?_
  rw [← encode_of_kept h.2.2, isDoubleDot_encode (encodes_percent special) (keeps_dot special)]
    at hdots
  exact toList_ne h.2.1 hdots

/-! ## Adding a segment -/

variable {segments : List (List Char)}

/-- A text that stands for itself is added as it is; a lone slash gives way to it. -/
theorem pushSegment_of_isSegment (h : IsSegment special text) (segments : List (List Char)) :
    pushSegment special segments text =
      (if segments = [[]] then [] else segments) ++ [text.toList] := by
  have hwritten : (Part.segment special).encode (text.toList.filter fun c => !isIgnored c) =
      text.toList := h.written_eq
  rw [pushSegment, if_neg (not_or.2 ⟨h.1, h.2.1⟩)]
  dsimp only
  rw [hwritten, addSegment, h.isDot_eq, h.isDoubleDot_eq]
  rfl

/-- The segments of a path to which others can be added: a lone slash has none. -/
def stem (segments : List (List Char)) : List (List Char) :=
  if withoutTrailingSlash segments = [[]] then [] else withoutTrailingSlash segments

theorem stem_subset (segments : List (List Char)) : stem segments ⊆ segments := by
  rw [stem]
  split
  · exact List.nil_subset _
  · rw [withoutTrailingSlash]
    split
    · exact (List.dropLast_sublist segments).subset
    · exact List.Subset.refl _

theorem stem_ne (segments : List (List Char)) : stem segments ≠ [[]] := by
  rw [stem]
  split
  · exact (List.cons_ne_nil _ _).symm
  · assumption

theorem foldl_pushSegment {texts : List String}
    (h : ∀ text ∈ texts, IsSegment special text ∧ text ≠ "") (hne : segments ≠ [[]]) :
    texts.foldl (pushSegment special) segments = segments ++ texts.map String.toList := by
  induction texts generalizing segments with
  | nil => exact (List.append_nil segments).symm
  | cons text rest ih =>
    obtain ⟨⟨htext, hnonempty⟩, hrest⟩ := List.forall_mem_cons.1 h
    have hpush : pushSegment special segments text = segments ++ [text.toList] := by
      rw [pushSegment_of_isSegment htext, if_neg hne]
    have hnext : segments ++ [text.toList] ≠ [[]] := by
      intro heq
      have hlast := congrArg List.getLast? heq
      rw [List.getLast?_append, List.getLast?_singleton] at hlast
      exact toList_ne (s := []) hnonempty (Option.some.inj hlast)
    rw [List.foldl_cons, hpush, ih hrest hnext, List.map_cons, List.append_assoc]
    rfl

/-- Texts that stand for themselves are added behind the stem, and other texts behind them. -/
theorem extend_append {u : Url} (hpath : u.path = .segments segments) {texts : List String}
    (h : ∀ text ∈ texts, IsSegment u.isSpecial text ∧ text ≠ "") (hne : texts ≠ [])
    (others : List String) :
    u.extend (texts ++ others) = { u with path := .segments (others.foldl
      (pushSegment u.isSpecial) (stem segments ++ texts.map String.toList)) } := by
  obtain ⟨text, rest, rfl⟩ := List.exists_cons_of_ne_nil hne
  have htext := (h text List.mem_cons_self).1
  have hfirst : pushSegment u.isSpecial (withoutTrailingSlash segments) text =
      pushSegment u.isSpecial (stem segments) text := by
    rw [pushSegment_of_isSegment htext, pushSegment_of_isSegment htext,
      if_neg (stem_ne segments), stem]
  have hall : (text :: rest).foldl (pushSegment u.isSpecial) (withoutTrailingSlash segments) =
      stem segments ++ (text :: rest).map String.toList := by
    rw [List.foldl_cons, hfirst, ← List.foldl_cons, foldl_pushSegment h (stem_ne segments)]
  rw [extend, hpath]
  dsimp only
  rw [List.foldl_append, hall]

/-- What any other text adds: nothing, an empty segment, here or one level up, or another text. -/
theorem pushSegment_cases (h : ¬IsSegment special text) (hne : segments ≠ [[]]) :
    (text = "." ∨ text = "..") ∧ pushSegment special segments text = segments ∨
      pushSegment special segments text = shorten segments ++ [[]] ∨
      pushSegment special segments text = segments ++ [[]] ∨
      ∃ other, other ≠ text.toList ∧ pushSegment special segments text = segments ++ [other] := by
  by_cases hdots : text = "." ∨ text = ".."
  · exact .inl ⟨hdots, if_pos hdots⟩
  · have hother : written special text ≠ text.toList := by
      intro heq
      obtain ⟨hdot, hdouble⟩ := not_or.1 hdots
      exact h ⟨hdot, hdouble, encode_counted_eq_iff.1 heq⟩
    have hpush : pushSegment special segments text =
        addSegment true segments (written special text) := by
      rw [pushSegment, if_neg hdots]
      dsimp only
      rw [if_neg hne]
      rfl
    right
    rw [hpush, addSegment]
    split
    · exact .inl rfl
    · split
      · exact .inr (.inl rfl)
      · exact .inr (.inr ⟨_, hother, rfl⟩)

theorem pushSegment_open (h : ∀ x ∈ segments, Open x) (special : Bool) (text : String) :
    ∀ x ∈ pushSegment special segments text, Open x := by
  rw [pushSegment]
  split
  · exact h
  · refine open_addSegment true ?_ (open_encode_segment special _)
    split
    · simp
    · exact h

theorem pushSegment_ne_nil (special : Bool) (h : segments ≠ []) (text : String) :
    pushSegment special segments text ≠ [] := by
  rw [pushSegment]
  split
  · exact h
  · dsimp only
    rw [addSegment]
    split
    · exact List.append_ne_nil_of_right_ne_nil _ (List.cons_ne_nil _ _)
    · split
      · exact List.append_ne_nil_of_right_ne_nil _ (List.cons_ne_nil _ _)
      · exact List.append_ne_nil_of_right_ne_nil _ (List.cons_ne_nil _ _)

/-- What is added to a URL can be told from what follows it. -/
theorem WellFormed.extend {u : Url} (h : u.WellFormed) (texts : List String) :
    (u.extend texts).WellFormed := by
  rw [Url.extend]
  split
  · exact h
  next segments hpath =>
    refine ⟨h.scheme_ne_nil, h.scheme, h.authority, ?_⟩
    rintro _ ⟨⟩
    have hfront : ∀ x ∈ withoutTrailingSlash segments, Open x := by
      intro x hx
      rw [withoutTrailingSlash] at hx
      split at hx
      · exact h.path segments hpath x ((List.dropLast_sublist segments).subset hx)
      · exact h.path segments hpath x hx
    generalize withoutTrailingSlash segments = front at hfront
    induction texts generalizing front with
    | nil => exact hfront
    | cons text rest ih => exact ih _ (pushSegment_open hfront u.isSpecial text)

end FeatureFlags.Url
