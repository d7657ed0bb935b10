import FeatureFlags.Proofs.Regex.Drafts
import Mathlib.Data.List.Basic

/-!
# What a machine finds

At a position of a text a machine follows all runs at once. The places it marks there are those that
can be reached without a character (`Underway`), so behind a position it goes on at just the places
from which a match is still to be completed. Main statement: an expression occurs in a text if one
of its matches begins somewhere in the text, and not otherwise (`occursIn_iff`).
-/
namespace FeatureFlags.Regex

/-! ## Places with no character between them -/

/-- Where to go on with the same two characters at both sides. -/
def Step.silent (before after : Option Char) : Step → List Nat
  | accept | take _ _ => []
  | check l next => if l.holds before after then [next] else []
  | fork first second => [first, second]

theorem Step.length_silent_le (before after : Option Char) (s : Step) :
    (s.silent before after).length ≤ 2 := by
  cases s with
  | check l next =>
    rw [silent]
    split <;> simp
  | _ => simp [silent]

/-- Where to go on behind the character that follows. -/
def Step.behind (after : Option Char) : Step → List Nat
  | take s next => if after.any s.contains then [next] else []
  | accept | check _ _ | fork _ _ => []

theorem Step.mem_behind {after : Option Char} {s : Step} {p : Nat} :
    p ∈ s.behind after ↔ ∃ set c, s = .take set p ∧ after = some c ∧ set.contains c = true := by
  cases s with
  | take set next =>
    rw [behind, List.mem_ite_nil_right, List.mem_singleton, Option.any_eq_true]
    constructor
    · rintro ⟨⟨c, hafter, hmem⟩, rfl⟩
      exact ⟨set, c, rfl, hafter, hmem⟩
    · rintro ⟨_, c, hs, hafter, hmem⟩
      cases hs
      exact ⟨⟨c, hafter, hmem⟩, rfl⟩
  | _ => simp [behind]

/-- One place leads to the other between two characters. -/
def Slips (steps : Array Step) (before after : Option Char) (p q : Nat) : Prop :=
  ∃ s, steps[p]? = some s ∧ q ∈ s.silent before after

/-- One place leads to the other between two characters, through any number of places. -/
abbrev Glides (steps : Array Step) (before after : Option Char) : Nat → Nat → Prop :=
  Relation.ReflTransGen (Slips steps before after)

/-- From a place, a match is complete at once or completed behind the next character. -/
def Rests (steps : Array Step) (x : Spot) (p : Nat) : Prop :=
  steps[p]? = some .accept ∨ ∃ s next c rest, steps[p]? = some (.take s next) ∧
    x.after = c :: rest ∧ s.contains c = true ∧ Live steps next ⟨x.before ++ [c], rest⟩

variable {steps : Array Step} {n p q : Nat} {x : Spot}

theorem Live.of_slips (h : Live steps q x)
    (hslip : Slips steps x.before.getLast? x.after.head? p q) : Live steps p x := by
  obtain ⟨s, hs, hq⟩ := hslip
  cases s with
  | accept => cases hq
  | take => cases hq
  | check l next =>
    rw [Step.silent, List.mem_ite_nil_right, List.mem_singleton] at hq
    obtain ⟨hholds, rfl⟩ := hq
    exact h.of_check hs hholds
  | fork first second =>
    rw [Step.silent, List.mem_cons, List.mem_singleton] at hq
    rcases hq with rfl | rfl
    · exact h.of_first hs
    · exact h.of_second hs

theorem Completes.rests_or_slips (h : Completes steps (n + 1) p x) :
    Rests steps x p ∨
      ∃ q, Slips steps x.before.getLast? x.after.head? p q ∧ Completes steps n q x := by
  rcases hs : steps[p]? with _ | s
  · simp [Completes, hs] at h
  cases s with
  | accept => simp [Completes, hs] at h
  | take s next =>
    obtain ⟨k, c, rest, -, hnext, hmem, hrest⟩ := (completes_take hs).1 h
    exact .inl (.inr ⟨s, next, c, rest, hs, hnext, hmem, ⟨k, hrest⟩⟩)
  | check l next =>
    obtain ⟨k, hk, hholds, hrest⟩ := (completes_check hs).1 h
    cases hk
    exact .inr ⟨next, ⟨_, hs, by simp [Step.silent, hholds]⟩, hrest⟩
  | fork first second =>
    obtain ⟨k, hk, hrest | hrest⟩ := (completes_fork hs).1 h
    · cases hk
      exact .inr ⟨first, ⟨_, hs, by simp [Step.silent]⟩, hrest⟩
    · cases hk
      exact .inr ⟨second, ⟨_, hs, by simp [Step.silent]⟩, hrest⟩

/-- What completes a match gets to a place where it is complete or takes a character. -/
theorem live_iff : Live steps p x ↔
    ∃ q, Glides steps x.before.getLast? x.after.head? p q ∧ Rests steps x q := by
  constructor
  · rintro ⟨n, h⟩
    induction n generalizing p with
    | zero => exact ⟨p, .refl, .inl h⟩
    | succ n ih =>
      rcases h.rests_or_slips with hrests | ⟨q, hslip, hrest⟩
      · exact ⟨p, .refl, hrests⟩
      · obtain ⟨r, hglides, hrests⟩ := ih hrest
        exact ⟨r, .head hslip hglides, hrests⟩
  · rintro ⟨q, hglides, hrests⟩
    induction hglides using Relation.ReflTransGen.head_induction_on with
    | refl =>
      rcases hrests with haccept | ⟨s, next, c, rest, hs, hnext, hmem, hrest⟩
      · exact ⟨0, haccept⟩
      · exact hrest.of_take hs hnext hmem
    | head hslip _ ih => exact ih.of_slips hslip

namespace Machine

variable {m : Machine} {position : Nat} {before after : Option Char}

/-! ## Marking places -/

namespace Reached

variable {found : Reached} {place : Nat} {s : Step}

/-- A place was reached at a position. -/
def Marked (found : Reached) (position place : Nat) : Prop := found.last[place]? = some position

/-- One of the steps that were reached at a position meets a condition. -/
def Shows (found : Reached) (m : Machine) (position : Nat) (P : Step → Prop) : Prop :=
  ∃ p s, found.Marked position p ∧ m.steps[p]? = some s ∧ P s

/-- How many places were not reached at a position. -/
def unmarked (found : Reached) (position : Nat) : Nat := found.last.countP (· ≠ position)

/-- A place is reached for the first time at a position. -/
def mark (found : Reached) (position place : Nat) (after : Option Char) (s : Step) : Reached where
  last := found.last.setIfInBounds place position
  next := s.behind after ++ found.next
  accepted := s = .accept || found.accepted

theorem marked_mark (hplace : place < found.last.size) (p : Nat) :
    (found.mark position place after s).Marked position p ↔
      p = place ∨ found.Marked position p := by
  unfold Reached.Marked Reached.mark
  rw [Array.getElem?_setIfInBounds]
  split
  next heq => simp [← heq, hplace]
  next hne => simp [Ne.symm hne]

theorem shows_mark (hplace : place < found.last.size) (hs : m.steps[place]? = some s)
    (P : Step → Prop) :
    (found.mark position place after s).Shows m position P ↔ P s ∨ found.Shows m position P := by
  constructor
  · rintro ⟨p, s', hp, hs', hP⟩
    rcases (marked_mark hplace p).1 hp with rfl | hp
    · cases hs.symm.trans hs'
      exact .inl hP
    · exact .inr ⟨p, s', hp, hs', hP⟩
  · rintro (hP | ⟨p, s', hp, hs', hP⟩)
    · exact ⟨place, s, (marked_mark hplace place).2 (.inl rfl), hs, hP⟩
    · exact ⟨p, s', (marked_mark hplace p).2 (.inr hp), hs', hP⟩

theorem unmarked_mark (hplace : place < found.last.size) (hnew : found.last[place] ≠ position) :
    (found.mark position place after s).unmarked position + 1 = found.unmarked position := by
  have hpos : 0 < found.last.countP (· ≠ position) :=
    Array.countP_pos_iff.2 ⟨_, Array.getElem_mem hplace, by simpa using hnew⟩
  rw [unmarked, mark, Array.setIfInBounds, dif_pos hplace, Array.countP_set,
    if_pos (decide_eq_true hnew), if_neg (by simp), unmarked]
  omega

end Reached

/-! ## Following places -/

theorem follow_marked {fuel place : Nat} {stack : List Nat} {found : Reached}
    (h : found.last.getD place position = position) :
    m.follow position before after (fuel + 1) (place :: stack) found =
      m.follow position before after fuel stack found := by
  rw [follow, if_pos h]

theorem follow_unmarked {fuel place : Nat} {stack : List Nat} {found : Reached} {s : Step}
    (h : found.last.getD place position ≠ position) (hs : m.steps[place]? = some s) :
    m.follow position before after (fuel + 1) (place :: stack) found =
      m.follow position before after fuel (s.silent before after ++ stack)
        (found.mark position place after s) := by
  rw [follow, if_neg h]
  cases s with
  | accept => simp [hs, Step.silent, Step.behind, Reached.mark]
  | take s next =>
    simp only [hs, Step.silent, Step.behind, Reached.mark, List.nil_append]
    split <;> simp
  | check l next =>
    simp only [hs, Step.silent, Step.behind, Reached.mark]
    split <;> simp
  | fork first second => simp [hs, Step.silent, Step.behind, Reached.mark]

/-- While places are followed at a position, those that are marked and those that are left on the
stack are places to which the first ones lead; and what a marked place leads to is among them. What
was found is what the marked places say. -/
structure Underway (m : Machine) (position : Nat) (before after : Option Char)
    (origins stack : List Nat) (found : Reached) : Prop where
  size : found.last.size = m.steps.size
  past : ∀ n ∈ found.last, n ≤ position
  begun : ∀ p ∈ origins, p < m.steps.size → found.Marked position p ∨ p ∈ stack
  closed : ∀ p q, found.Marked position p → Slips m.steps before after p q → q < m.steps.size →
    found.Marked position q ∨ q ∈ stack
  sound : ∀ p, found.Marked position p ∨ p ∈ stack → ∃ o ∈ origins, Glides m.steps before after o p
  accepted : found.accepted = true ↔ found.Shows m position (· = .accept)
  next : ∀ n, n ∈ found.next ↔ found.Shows m position (n ∈ ·.behind after)

namespace Underway

variable {origins stack : List Nat} {place : Nat} {found : Reached}

/-- A place that is marked, or that is none, is left out. -/
theorem skip (h : Underway m position before after origins (place :: stack) found)
    (hmarked : place < m.steps.size → found.Marked position place) :
    Underway m position before after origins stack found where
  size := h.size
  past := h.past
  begun p hp hlt := by
    rcases h.begun p hp hlt with hp | hp
    · exact .inl hp
    · rcases List.mem_cons.1 hp with rfl | hp
      · exact .inl (hmarked hlt)
      · exact .inr hp
  closed p q hp hslip hlt := by
    rcases h.closed p q hp hslip hlt with hq | hq
    · exact .inl hq
    · rcases List.mem_cons.1 hq with rfl | hq
      · exact .inl (hmarked hlt)
      · exact .inr hq
  sound p hp := h.sound p (hp.imp_right (List.mem_cons_of_mem place))
  accepted := h.accepted
  next := h.next

theorem mark (h : Underway m position before after origins (place :: stack) found) {s : Step}
    (hs : m.steps[place]? = some s) :
    Underway m position before after origins (s.silent before after ++ stack)
      (found.mark position place after s) := by
  have hplace : place < found.last.size := by
    rw [h.size]
    exact (Array.getElem?_eq_some_iff.1 hs).1
  have hmarked : ∀ p, (found.mark position place after s).Marked position p ↔
      p = place ∨ found.Marked position p := Reached.marked_mark hplace
  have hkept {p : Nat} (hp : found.Marked position p ∨ p ∈ place :: stack) :
      (found.mark position place after s).Marked position p ∨
        p ∈ s.silent before after ++ stack := by
    rw [hmarked, List.mem_append]
    rcases hp with hp | hp
    · exact .inl (.inr hp)
    · exact (List.mem_cons.1 hp).imp .inl .inr
  have hsound := h.sound place (.inr List.mem_cons_self)
  constructor
  case size => exact (Array.size_setIfInBounds ..).trans h.size
  case past =>
    intro n hn
    rcases Array.mem_or_eq_of_mem_setIfInBounds hn with hn | rfl
    · exact h.past n hn
    · exact Nat.le_refl _
  case begun => exact fun p hp hlt => hkept (h.begun p hp hlt)
  case closed =>
    intro p q hp hslip hlt
    rcases (hmarked p).1 hp with rfl | hp
    · obtain ⟨s', hs', hq⟩ := hslip
      cases hs.symm.trans hs'
      exact .inr (List.mem_append_left _ hq)
    · exact hkept (h.closed p q hp hslip hlt)
  case sound =>
    intro p hp
    rw [hmarked, List.mem_append] at hp
    rcases hp with (rfl | hp) | hp | hp
    · exact hsound
    · exact h.sound p (.inl hp)
    · obtain ⟨o, ho, hglides⟩ := hsound
      exact ⟨o, ho, hglides.tail ⟨s, hs, hp⟩⟩
    · exact h.sound p (.inr (List.mem_cons_of_mem place hp))
  case accepted =>
    rw [Reached.shows_mark hplace hs, ← h.accepted, Reached.mark, Bool.or_eq_true,
      decide_eq_true_eq]
  case next =>
    intro n
    rw [Reached.shows_mark hplace hs, ← h.next, Reached.mark, List.mem_append]

/-- Each step that is marked puts at most two places on the stack, so the stack runs empty before
the bound is reached. -/
theorem followed (h : Underway m position before after origins stack found) {fuel : Nat}
    (hfuel : stack.length + 2 * found.unmarked position ≤ fuel) :
    Underway m position before after origins []
      (m.follow position before after fuel stack found) := by
  induction fuel generalizing stack found with
  | zero =>
    obtain rfl : stack = [] := List.length_eq_zero_iff.1 (by omega)
    exact h
  | succ fuel ih =>
    cases stack with
    | nil => exact h
    | cons place stack =>
      rw [List.length_cons] at hfuel
      -- A number that is no place counts as marked, and is left out as a marked place is.
      by_cases hplace : place < found.last.size
      case neg =>
        rw [follow_marked (by simp [Array.getD, hplace])]
        exact ih (h.skip fun hlt => absurd (h.size ▸ hlt) hplace) (by omega)
      by_cases hold : found.last[place] = position
      case pos =>
        rw [follow_marked (by simp [Array.getD, hplace, hold])]
        exact ih (h.skip fun _ => Array.getElem?_eq_some_iff.2 ⟨hplace, hold⟩) (by omega)
      case neg =>
        obtain ⟨s, hs⟩ : ∃ s, m.steps[place]? = some s :=
          ⟨_, Array.getElem?_eq_getElem (h.size ▸ hplace)⟩
        have hfewer : (found.mark position place after s).unmarked position + 1 =
            found.unmarked position := Reached.unmarked_mark hplace hold
        have hpushed := s.length_silent_le before after
        rw [follow_unmarked (by simpa [Array.getD, hplace] using hold) hs]
        apply ih (h.mark hs)
        rw [List.length_append]
        omega

/-- When the stack is empty, the marked places are those to which the first ones lead. -/
theorem marked_iff (h : Underway m position before after origins [] found) {p : Nat}
    (hp : p < m.steps.size) :
    found.Marked position p ↔ ∃ o ∈ origins, Glides m.steps before after o p := by
  constructor
  · intro hmarked
    exact h.sound p (.inl hmarked)
  · rintro ⟨o, ho, hglides⟩
    induction hglides with
    | refl => exact (h.begun o ho hp).resolve_right List.not_mem_nil
    | @tail q p _ hslip ih =>
      -- What something leads on from is a place, so it is marked itself.
      obtain ⟨s, hs, hq⟩ := hslip
      have hmarked := ih (Array.getElem?_eq_some_iff.1 hs).1
      exact (h.closed q p hmarked ⟨s, hs, hq⟩ hp).resolve_right List.not_mem_nil

theorem shows_iff (h : Underway m position before after origins [] found) (P : Step → Prop) :
    found.Shows m position P ↔
      ∃ o ∈ origins, ∃ p s, Glides m.steps before after o p ∧ m.steps[p]? = some s ∧ P s := by
  constructor
  · rintro ⟨p, s, hmarked, hs, hP⟩
    obtain ⟨o, ho, hglides⟩ := h.sound p (.inl hmarked)
    exact ⟨o, ho, p, s, hglides, hs, hP⟩
  · rintro ⟨o, ho, p, s, hglides, hs, hP⟩
    exact ⟨p, s, (h.marked_iff (Array.getElem?_eq_some_iff.1 hs).1).2 ⟨o, ho, hglides⟩, hs, hP⟩

end Underway

/-! ## Positions -/

/-- What is known of earlier positions: none of them is the current one. -/
structure Past (m : Machine) (position : Nat) (last : Array Nat) : Prop where
  size : last.size = m.steps.size
  past : ∀ n ∈ last, n < position

variable {last : Array Nat}

theorem reach_underway (h : m.Past position last) (before after : Option Char) (places : List Nat) :
    Underway m position before after (m.start :: places) []
      (m.reach position before after places last) := by
  have hunmarked (p : Nat) : ¬Reached.Marked ⟨last, [], false⟩ position p := fun hmarked =>
    Nat.lt_irrefl position (h.past position (Array.mem_of_getElem? hmarked))
  have hshows (P : Step → Prop) : ¬Reached.Shows ⟨last, [], false⟩ m position P :=
    fun ⟨p, _, hmarked, _⟩ => hunmarked p hmarked
  have hstart : Underway m position before after (m.start :: places) (m.start :: places)
      ⟨last, [], false⟩ :=
    { size := h.size
      past := fun n hn => Nat.le_of_lt (h.past n hn)
      begun := fun p hp _ => .inr hp
      closed := fun p q hmarked => absurd hmarked (hunmarked p)
      sound := fun p hp => ⟨p, hp.resolve_left (hunmarked p), .refl⟩
      accepted := by simp [hshows]
      next := by simp [hshows] }
  have hcount : Reached.unmarked ⟨last, [], false⟩ position ≤ m.steps.size :=
    h.size ▸ Array.countP_le_size
  apply hstart.followed
  rw [List.length_cons]
  omega

theorem Past.reach (h : m.Past position last) (before after : Option Char) (places : List Nat) :
    m.Past (position + 1) (m.reach position before after places last).last where
  size := (reach_underway h before after places).size
  past n hn := Nat.lt_succ_of_le ((reach_underway h before after places).past n hn)

/-- What is completed from the start or from given places is complete at once, or completed from the
next places behind the next character. -/
theorem live_iff_reach (h : m.Past position last) (places : List Nat) {x : Spot} {found : Reached}
    (hfound : found = m.reach position x.before.getLast? x.after.head? places last) :
    (∃ o ∈ m.start :: places, Live m.steps o x) ↔ found.accepted = true ∨
      ∃ c rest, x.after = c :: rest ∧ ∃ p ∈ found.next, Live m.steps p ⟨x.before ++ [c], rest⟩ := by
  have hunder := hfound ▸ reach_underway h x.before.getLast? x.after.head? places
  constructor
  · rintro ⟨o, ho, hlive⟩
    obtain ⟨q, hglides, haccept | ⟨s, next, c, rest, hs, hnext, hmem, hrest⟩⟩ :=
      live_iff.1 hlive
    · exact .inl (hunder.accepted.2 ((hunder.shows_iff _).2 ⟨o, ho, q, _, hglides, haccept, rfl⟩))
    · refine .inr ⟨c, rest, hnext, next, ?_, hrest⟩
      rw [hunder.next, hunder.shows_iff]
      exact ⟨o, ho, q, _, hglides, hs, Step.mem_behind.2 ⟨s, c, rfl, by rw [hnext]; rfl, hmem⟩⟩
  · rintro (haccepted | ⟨c, rest, hnext, p, hp, hlive⟩)
    · rw [hunder.accepted, hunder.shows_iff] at haccepted
      obtain ⟨o, ho, q, s, hglides, hs, rfl⟩ := haccepted
      exact ⟨o, ho, live_iff.2 ⟨q, hglides, .inl hs⟩⟩
    · rw [hunder.next, hunder.shows_iff] at hp
      obtain ⟨o, ho, q, s, hglides, hs, hbehind⟩ := hp
      obtain ⟨set, d, rfl, hafter, hmem⟩ := Step.mem_behind.1 hbehind
      rw [hnext] at hafter
      cases hafter
      exact ⟨o, ho, live_iff.2 ⟨q, hglides, .inr ⟨set, p, c, rest, hs, hnext, hmem, hlive⟩⟩⟩

/-- A machine that has come to a spot finds a match if one is still to be completed from the places
it holds, or from the start at that spot or behind it. -/
theorem occursFrom_iff (h : m.Past position last) (places : List Nat) (x : Spot) :
    m.occursFrom position x.before.getLast? places last x.after = true ↔
      (∃ p ∈ places, Live m.steps p x) ∨ ∃ s y, Spot.Over s x y ∧ Live m.steps m.start y := by
  obtain ⟨before, after⟩ := x
  induction after generalizing position last places before with
  | nil =>
    have hreach := live_iff_reach h places (x := ⟨before, []⟩) rfl
    rw [List.exists_mem_cons_iff, or_comm] at hreach
    rw [occursFrom, Spot.exists_over_nil_iff, hreach]
    simp
  | cons c rest ih =>
    have hreach := live_iff_reach h places (x := ⟨before, c :: rest⟩) rfl
    rw [List.exists_mem_cons_iff, or_comm] at hreach
    have hnext := ih (h.reach before.getLast? (some c) places)
      (m.reach position before.getLast? (some c) places last).next (before ++ [c])
    rw [List.getLast?_concat] at hnext
    rw [occursFrom, Bool.or_eq_true, hnext, Spot.exists_over_cons_iff, ← or_assoc, ← or_assoc,
      hreach]
    simp

end Machine

/-- An expression occurs in a text if one of its matches begins at some spot of the text, and not
otherwise. -/
theorem occursIn_iff (r : Regex) (s : String) :
    r.occursIn s = true ↔ ∃ x y : Spot, x.before ++ x.after = s.toList ∧ r.Matches x y := by
  have hpast : r.machine.Past 1 (Array.replicate r.machine.steps.size 0) :=
    { size := Array.size_replicate
      past := by simp }
  have hsearch := Machine.occursFrom_iff hpast [] ⟨[], s.toList⟩
  rw [occursIn, Machine.occursIn]
  apply hsearch.trans
  constructor
  · rintro (⟨p, hp, -⟩ | ⟨skipped, x, hover, hlive⟩)
    · cases hp
    · obtain ⟨y, hmatch⟩ := (live_machine_iff r x).1 hlive
      exact ⟨x, y, hover.2 ▸ hover.1.symm, hmatch⟩
  · rintro ⟨x, y, hx, hmatch⟩
    exact .inr ⟨x.before, x, ⟨hx.symm, rfl⟩, (live_machine_iff r x).2 ⟨y, hmatch⟩⟩

end FeatureFlags.Regex
