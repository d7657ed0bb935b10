import FeatureFlags.Text.Pieces
import Mathlib.Data.List.Forall2
import Mathlib.Data.List.TakeWhile

/-!
# Pieces and white space

White space around a text is lost in two ways: trimming drops it, and the pieces of the trimmed text
are the pieces of the text, where the first one and the last one lack it (`splitAt_trim`). The rest
is about one piece: it is cut at its first separator, whatever stands behind that.
-/
namespace FeatureFlags.Text

variable {a b s : List Char} {separator : Char}

/-! ## White space -/

/-- White space alone. -/
def Blank (s : List Char) : Prop := isAllBlank s = true

instance : DecidablePred Blank := fun s => inferInstanceAs (Decidable (isAllBlank s = true))

theorem blank_iff_forall : Blank s ↔ ∀ c ∈ s, isBlank c = true := List.all_eq_true

theorem blank_append : Blank (a ++ b) ↔ Blank a ∧ Blank b := by
  simp [blank_iff_forall, or_imp, forall_and]

theorem Blank.not_mem (h : Blank s) {c : Char} (hc : isBlank c = false) : c ∉ s := fun hmem => by
  rw [blank_iff_forall.1 h c hmem] at hc
  cases hc

/-- No white space at either end. -/
structure Bare (s : List Char) : Prop where
  head : ∀ c ∈ s.head?, isBlank c = false
  last : ∀ c ∈ s.getLast?, isBlank c = false

theorem bare_iff : Bare s ↔ s.head?.any isBlank = false ∧ s.getLast?.any isBlank = false := by
  rw [Option.any_eq_false, Option.any_eq_false]
  exact ⟨fun h => ⟨h.head, h.last⟩, fun h => ⟨h.1, h.2⟩⟩

instance : DecidablePred Bare := fun _ => decidable_of_iff _ bare_iff.symm

theorem Bare.not_blank (h : Bare s) (hne : s ≠ []) : ¬Blank s := by
  obtain ⟨c, rest, rfl⟩ := List.exists_cons_of_ne_nil hne
  intro hblank
  have hc := blank_iff_forall.1 hblank c List.mem_cons_self
  rw [h.head c rfl] at hc
  cases hc

/-- A text with white space around it. -/
def Padded (s t : List Char) : Prop := ∃ a b, Blank a ∧ Blank b ∧ t = a ++ s ++ b

theorem trim_padded {t : List Char} (h : Padded s t) : trim t = trim s := by
  obtain ⟨a, b, ha, hb, rfl⟩ := h
  have hleft : trimLeft (a ++ s ++ b) = trimLeft (s ++ b) := by
    rw [List.append_assoc]
    exact List.dropWhile_append_of_pos (blank_iff_forall.1 ha)
  rw [trim, hleft, trim, trimLeft, List.dropWhile_append]
  split
  next hnone =>
    rw [List.dropWhile_eq_nil_iff.2 (blank_iff_forall.1 hb), trimLeft, List.isEmpty_iff.1 hnone]
  next hsome =>
    have hright : ∀ c ∈ b.reverse, isBlank c = true := fun c hc =>
      blank_iff_forall.1 hb c (List.mem_reverse.1 hc)
    rw [trimRight, List.reverse_append, List.dropWhile_append_of_pos hright]
    rfl

theorem trim_of_bare (h : Bare s) : trim s = s := by
  have hkept {t : List Char} (hhead : ∀ c ∈ t.head?, isBlank c = false) :
      t.dropWhile isBlank = t := by
    cases t with
    | nil => rfl
    | cons c rest => exact List.dropWhile_cons_of_neg (by simpa using hhead c rfl)
  have hlast : ∀ c ∈ s.reverse.head?, isBlank c = false := by
    rw [List.head?_reverse]
    exact h.last
  rw [trim, trimLeft, hkept h.head, trimRight, hkept hlast, List.reverse_reverse]

theorem padded_trim (s : List Char) : Padded (trim s) s := by
  refine ⟨s.takeWhile isBlank, ((trimLeft s).reverse.takeWhile isBlank).reverse, ?_, ?_, ?_⟩
  · exact List.all_takeWhile
  · rw [Blank, isAllBlank, List.all_reverse]
    exact List.all_takeWhile
  · rw [trim, trimRight, List.append_assoc, ← List.reverse_append, List.takeWhile_append_dropWhile,
      List.reverse_reverse, trimLeft, List.takeWhile_append_dropWhile]

theorem Padded.blank_iff {t : List Char} (h : Padded s t) : Blank t ↔ Blank s := by
  obtain ⟨a, b, ha, hb, rfl⟩ := h
  simp [blank_append, ha, hb]

/-! ## Pieces -/

theorem splitAt_eq_splitOn (separator : Char) (s : List Char) :
    splitAt separator s = s.splitOn separator := by
  induction s with
  | nil => rfl
  | cons c rest ih =>
    rw [splitAt, List.splitOn_cons_eq_if_modifyHead, ← ih]
    by_cases hc : c = separator
    · simp [hc]
    · simp only [hc, if_false, beq_iff_eq]
      split
      next h => exact absurd h (splitAt_ne_nil separator rest)
      next h => rw [h, List.modifyHead_cons]

theorem splitAt_cons_of_ne {c : Char} (hc : c ≠ separator) (s : List Char) :
    splitAt separator (c :: s) = (splitAt separator s).modifyHead (c :: ·) := by
  rw [splitAt_eq_splitOn, List.splitOn_cons_eq_if_modifyHead, if_neg (by simpa using hc),
    splitAt_eq_splitOn]

theorem splitAt_append_front (ha : separator ∉ a) (s : List Char) :
    splitAt separator (a ++ s) = (splitAt separator s).modifyHead (a ++ ·) := by
  induction a with
  | nil => exact (congrFun List.modifyHead_id _).symm
  | cons c rest ih =>
    obtain ⟨hc, hrest⟩ := List.ne_and_not_mem_of_not_mem_cons ha
    rw [List.cons_append, splitAt_cons_of_ne hc.symm, ih hrest, List.modifyHead_modifyHead]
    rfl

theorem forall₂_modifyHead {R S : List Char → List Char → Prop} {f g : List Char → List Char}
    (hhead : ∀ p q, R p q → S (f p) (g q)) (htail : ∀ p q, R p q → S p q)
    {l l' : List (List Char)} (h : List.Forall₂ R l l') :
    List.Forall₂ S (l.modifyHead f) (l'.modifyHead g) := by
  cases h with
  | nil => exact .nil
  | cons hfirst hrest => exact .cons (hhead _ _ hfirst) (hrest.imp htail)

/-- White space behind a text goes to the last piece. -/
theorem splitAt_append_behind (hseparator : isBlank separator = false) (hb : Blank b)
    (s : List Char) : List.Forall₂ (fun p q => ∃ e, Blank e ∧ q = p ++ e) (splitAt separator s)
      (splitAt separator (s ++ b)) := by
  induction s with
  | nil =>
    rw [List.nil_append, splitAt_eq_splitOn, splitAt_eq_splitOn,
      List.splitOn_eq_singleton (hb.not_mem hseparator), List.splitOn_nil]
    exact .cons ⟨b, hb, rfl⟩ .nil
  | cons c rest ih =>
    by_cases hc : c = separator
    · rw [List.cons_append, splitAt, if_pos hc, splitAt, if_pos hc]
      exact .cons ⟨[], rfl, rfl⟩ ih
    · rw [List.cons_append, splitAt_cons_of_ne hc, splitAt_cons_of_ne hc]
      refine forall₂_modifyHead ?_ (fun p q h => h) ih
      rintro p q ⟨e, he, rfl⟩
      exact ⟨e, he, rfl⟩

/-- The pieces of a trimmed text are those of the text without the white space around it. -/
theorem splitAt_trim (hseparator : isBlank separator = false) (s : List Char) :
    List.Forall₂ Padded (splitAt separator (trim s)) (splitAt separator s) := by
  obtain ⟨a, b, ha, hb, hs⟩ := padded_trim s
  have hbehind := splitAt_append_behind hseparator hb (trim s)
  have hpieces : splitAt separator s =
      (splitAt separator (trim s ++ b)).modifyHead (a ++ ·) := by
    rw [← splitAt_append_front (ha.not_mem hseparator), ← List.append_assoc, ← hs]
  have hfront : ∀ p q, (∃ e, Blank e ∧ q = p ++ e) → Padded p (a ++ q) := by
    rintro p q ⟨e, he, rfl⟩
    exact ⟨a, e, ha, he, (List.append_assoc _ _ _).symm⟩
  have hother : ∀ p q, (∃ e, Blank e ∧ q = p ++ e) → Padded p q := by
    rintro p q ⟨e, he, rfl⟩
    exact ⟨[], e, rfl, he, rfl⟩
  have hsame : (splitAt separator (trim s)).modifyHead id = splitAt separator (trim s) :=
    congrFun List.modifyHead_id _
  rw [hpieces, ← hsame]
  exact forall₂_modifyHead hfront hother hbehind

/-! ## One piece -/

/-- A piece is cut at its first separator. -/
theorem splitOnce_eq (separator : Char) (s : List Char) : splitOnce separator s =
    if separator ∈ s then some (s.takeWhile (· ≠ separator), (s.dropWhile (· ≠ separator)).tail)
    else none := by
  induction s with
  | nil => rfl
  | cons c rest ih =>
    by_cases hc : c = separator
    · simp [splitOnce, hc]
    · by_cases hmem : separator ∈ rest <;> simp [splitOnce, hc, ih, hmem, Ne.symm hc]

end FeatureFlags.Text
