import FeatureFlags.Proofs.Regex.Matches
import FeatureFlags.Regex.Machine
import Mathlib.Order.Basic

/-!
# Parts of a machine

Each part of a machine has an entry and an exit, and lets pass from one to the other what its
expression matches (`builds_add`). Whatever is put in front of a part later on leaves it as it is,
so that the machine of an expression completes the matches of the expression and no others
(`live_machine_iff`).
-/
namespace FeatureFlags.Regex

variable {steps : Array Step} {M N : Spot → Spot → Prop}

/-- From a place at a spot, a match is complete after so many moves. -/
def Completes (steps : Array Step) : Nat → Nat → Spot → Prop
  | 0, p, _ => steps[p]? = some .accept
  | n + 1, p, x =>
    match steps[p]? with
    | some (.take s q) =>
      ∃ c rest, x.after = c :: rest ∧ s.contains c = true ∧
        Completes steps n q ⟨x.before ++ [c], rest⟩
    | some (.check l q) => l.holds x.before.getLast? x.after.head? = true ∧ Completes steps n q x
    | some (.fork q r) => Completes steps n q x ∨ Completes steps n r x
    | _ => False

section

variable {n p q r : Nat} {x : Spot}

theorem completes_take {s : CharSet} (h : steps[p]? = some (.take s q)) :
    Completes steps n p x ↔ ∃ k c rest, n = k + 1 ∧ x.after = c :: rest ∧ s.contains c = true ∧
      Completes steps k q ⟨x.before ++ [c], rest⟩ := by
  cases n <;> simp [Completes, h]

theorem completes_check {l : Look} (h : steps[p]? = some (.check l q)) :
    Completes steps n p x ↔ ∃ k, n = k + 1 ∧ l.holds x.before.getLast? x.after.head? = true ∧
      Completes steps k q x := by
  cases n <;> simp [Completes, h]

theorem completes_fork (h : steps[p]? = some (.fork q r)) :
    Completes steps n p x ↔ ∃ k, n = k + 1 ∧ (Completes steps k q x ∨ Completes steps k r x) := by
  cases n <;> simp [Completes, h]

/-- From a place at a spot, a match is completed. -/
def Live (steps : Array Step) (p : Nat) (x : Spot) : Prop := ∃ n, Completes steps n p x

theorem Live.of_take {s : CharSet} {c : Char} {rest : List Char}
    (h : steps[p]? = some (.take s q)) (hnext : x.after = c :: rest) (hmem : s.contains c = true) :
    Live steps q ⟨x.before ++ [c], rest⟩ → Live steps p x
  | ⟨n, hrest⟩ => ⟨n + 1, (completes_take h).2 ⟨n, c, rest, rfl, hnext, hmem, hrest⟩⟩

theorem Live.of_check {l : Look} (h : steps[p]? = some (.check l q))
    (hholds : l.holds x.before.getLast? x.after.head? = true) : Live steps q x → Live steps p x
  | ⟨n, hrest⟩ => ⟨n + 1, (completes_check h).2 ⟨n, rfl, hholds, hrest⟩⟩

theorem Live.of_first (h : steps[p]? = some (.fork q r)) : Live steps q x → Live steps p x
  | ⟨n, hrest⟩ => ⟨n + 1, (completes_fork h).2 ⟨n, rfl, .inl hrest⟩⟩

theorem Live.of_second (h : steps[p]? = some (.fork q r)) : Live steps r x → Live steps p x
  | ⟨n, hrest⟩ => ⟨n + 1, (completes_fork h).2 ⟨n, rfl, .inr hrest⟩⟩

end

/-! ## Passing through a part -/

/-- What begins at the entry of a part gets to the exit behind a match, and from there takes no more
moves than were left. What begins at the exit can begin at the entry, before a match. -/
structure Passes (steps : Array Step) (entry exit : Nat) (M : Spot → Spot → Prop) : Prop where
  onto : ∀ {n : Nat} {x : Spot}, Completes steps n entry x →
    ∃ y k, M x y ∧ k ≤ n ∧ Completes steps k exit y
  back : ∀ {x y : Spot}, M x y → Live steps exit y → Live steps entry x

namespace Passes

variable {a b e p q : Nat}

theorem refl (p : Nat) : Passes steps p p Eq where
  onto h := ⟨_, _, rfl, Nat.le_refl _, h⟩
  back h hexit := h ▸ hexit

theorem comp (h : Passes steps a b M) (h' : Passes steps b e N) :
    Passes steps a e (Relation.Comp M N) where
  onto hentry := by
    obtain ⟨y, k, hM, hk, hmid⟩ := h.onto hentry
    obtain ⟨z, l, hN, hl, hexit⟩ := h'.onto hmid
    exact ⟨z, l, ⟨y, hM, hN⟩, Nat.le_trans hl hk, hexit⟩
  back := by
    rintro x z ⟨y, hM, hN⟩ hexit
    exact h.back hM (h'.back hN hexit)

theorem congr (h : Passes steps a e M) (heq : ∀ x y, M x y ↔ N x y) : Passes steps a e N := by
  have hsame : M = N := funext₂ fun x y => propext (heq x y)
  exact hsame ▸ h

theorem take {s : CharSet} (h : steps[p]? = some (.take s q)) :
    Passes steps p q fun x y => ∃ c, s.contains c = true ∧ Spot.Over [c] x y where
  onto := by
    intro n x hentry
    obtain ⟨k, c, rest, rfl, hnext, hmem, hexit⟩ := (completes_take h).1 hentry
    exact ⟨⟨x.before ++ [c], rest⟩, k, ⟨c, hmem, hnext, rfl⟩, Nat.le_succ k, hexit⟩
  back := by
    rintro x ⟨_, rest⟩ ⟨c, hmem, hnext, rfl⟩ hexit
    exact hexit.of_take h hnext hmem

theorem check {l : Look} (h : steps[p]? = some (.check l q)) :
    Passes steps p q fun x y => x = y ∧ l.holds x.before.getLast? x.after.head? = true where
  onto := by
    intro n x hentry
    obtain ⟨k, rfl, hholds, hexit⟩ := (completes_check h).1 hentry
    exact ⟨x, k, ⟨rfl, hholds⟩, Nat.le_succ k, hexit⟩
  back := by
    rintro x y ⟨rfl, hholds⟩ hexit
    exact hexit.of_check h hholds

theorem fork (h : steps[p]? = some (.fork a b)) (ha : Passes steps a e M)
    (hb : Passes steps b e N) : Passes steps p e fun x y => M x y ∨ N x y where
  onto := by
    intro n x hentry
    obtain ⟨k, rfl, hbranch | hbranch⟩ := (completes_fork h).1 hentry
    · obtain ⟨y, l, hM, hl, hexit⟩ := ha.onto hbranch
      exact ⟨y, l, .inl hM, Nat.le_succ_of_le hl, hexit⟩
    · obtain ⟨y, l, hN, hl, hexit⟩ := hb.onto hbranch
      exact ⟨y, l, .inr hN, Nat.le_succ_of_le hl, hexit⟩
  back := by
    rintro x y (hM | hN) hexit
    · exact (ha.back hM hexit).of_first h
    · exact (hb.back hN hexit).of_second h

/-- A part whose exit is a fork back to its entry is passed any number of times. -/
theorem loop (h : steps[p]? = some (.fork a e)) (ha : Passes steps a p M) :
    Passes steps p e fun x y => ∃ n, Repeated M n x y where
  onto := by
    intro n
    -- A round may come back at the same spot, so the induction is on the moves, not on the text.
    induction n using Nat.strongRecOn with
    | _ n ih =>
      intro x hentry
      obtain ⟨k, rfl, hround | hexit⟩ := (completes_fork h).1 hentry
      · obtain ⟨y, l, hM, hl, hback⟩ := ha.onto hround
        obtain ⟨z, m, ⟨rounds, hrest⟩, hm, hexit⟩ := ih l (Nat.lt_succ_of_le hl) hback
        exact ⟨z, m, ⟨rounds + 1, y, hM, hrest⟩, by omega, hexit⟩
      · exact ⟨x, k, ⟨0, rfl⟩, Nat.le_succ k, hexit⟩
  back := by
    rintro x y ⟨rounds, hrounds⟩ hexit
    induction rounds generalizing x with
    | zero =>
      cases hrounds
      exact hexit.of_second h
    | succ rounds ih =>
      obtain ⟨z, hM, hrest⟩ := hrounds
      exact (ha.back hM (ih hrest)).of_first h

end Passes

/-! ## Building a part -/

/-- The steps of a draft are in their places, from a place on. -/
def Draft.HeldFrom (d : Draft) (place : Nat) (steps : Array Step) : Prop :=
  ∀ i, place ≤ i → i < d.steps.size → steps[i]? = d.steps[i]?

/-- Puts a part in front of a draft and leaves the draft as it is. -/
structure Builds (f : Draft → Draft) (M : Spot → Spot → Prop) : Prop where
  keeps : ∀ d : Draft, d.steps.toList <+: (f d).steps.toList
  passes : ∀ d steps, (f d).HeldFrom d.steps.size steps → Passes steps (f d).entry d.entry M

namespace Draft

variable {d d' : Draft} {place : Nat}

theorem HeldFrom.of_prefix (hheld : d'.HeldFrom place steps)
    (h : d.steps.toList <+: d'.steps.toList) : d.HeldFrom place steps := fun i hplace hi => by
  have hsize : d.steps.size ≤ d'.steps.size := h.length_le
  rw [hheld i hplace (Nat.lt_of_lt_of_le hi hsize), ← Array.getElem?_toList,
    List.prefix_iff_getElem?.1 h i hi]
  simp [hi]

theorem keeps_step (d : Draft) (s : Nat → Step) : d.steps.toList <+: (d.step s).steps.toList := by
  rw [step, Array.toList_push]
  exact List.prefix_append _ _

theorem HeldFrom.entry {s : Nat → Step} (hheld : (d.step s).HeldFrom place steps)
    (hplace : place ≤ d.steps.size) : steps[(d.step s).entry]? = some (s d.entry) := by
  rw [hheld (d.step s).entry hplace (by simp [step])]
  simp [step]

end Draft

namespace Builds

variable {f g : Draft → Draft}

theorem grows (h : Builds f M) (d : Draft) : d.steps.size ≤ (f d).steps.size :=
  (h.keeps d).length_le

theorem id : Builds id Eq where
  keeps _ := List.prefix_rfl
  passes d _ _ := .refl d.entry

theorem congr (h : Builds f M) (heq : ∀ x y, M x y ↔ N x y) : Builds f N :=
  { h with passes := fun d steps hheld => (h.passes d steps hheld).congr heq }

theorem comp (h : Builds f M) (h' : Builds g N) : Builds (f ∘ g) (Relation.Comp M N) where
  keeps d := (h'.keeps d).trans (h.keeps (g d))
  passes d steps hheld := by
    have hfront : (f (g d)).HeldFrom (g d).steps.size steps := fun i hplace =>
      hheld i (Nat.le_trans (h'.grows d) hplace)
    have hrest : (g d).HeldFrom d.steps.size steps := hheld.of_prefix (h.keeps (g d))
    exact (h.passes (g d) steps hfront).comp (h'.passes d steps hrest)

theorem step {s : Nat → Step}
    (h : ∀ (steps : Array Step) p q, steps[p]? = some (s q) → Passes steps p q M) :
    Builds (·.step s) M where
  keeps d := d.keeps_step s
  passes d steps hheld := h steps _ d.entry (hheld.entry (Nat.le_refl _))

theorem text (s : List Char) : Builds (·.text s) (Spot.Over s) := by
  induction s with
  | nil => exact Builds.id.congr fun _ _ => Spot.over_nil.symm
  | cons c s ih =>
    have hchar : Builds (·.step (.take (.single c))) (Spot.Over [c]) :=
      (step fun _ _ _ => Passes.take).congr fun x y => by simp [CharSet.contains_single]
    exact (hchar.comp ih).congr fun _ _ => Spot.over_append.symm

theorem fork (h : Builds f M) (h' : Builds g N) :
    Builds (·.fork f g) fun x y => M x y ∨ N x y where
  keeps d := by
    let behind : Draft := { f d with entry := d.entry }
    exact ((h.keeps d).trans (h'.keeps behind)).trans ((g behind).keeps_step _)
  passes d steps hheld := by
    -- The second branch is built in front of the first one, and from the same exit.
    let a := f d
    let behind : Draft := { a with entry := d.entry }
    let b := g behind
    have hgrows : d.steps.size ≤ b.steps.size := Nat.le_trans (h.grows d) (h'.grows behind)
    have hfork : steps[(b.step (.fork a.entry)).entry]? = some (.fork a.entry b.entry) :=
      hheld.entry hgrows
    have hb : b.HeldFrom d.steps.size steps := hheld.of_prefix (b.keeps_step _)
    have ha : a.HeldFrom d.steps.size steps := hb.of_prefix (h'.keeps behind)
    have hbehind : b.HeldFrom behind.steps.size steps := fun i hplace =>
      hb i (Nat.le_trans (h.grows d) hplace)
    exact .fork hfork (h.passes d steps ha) (h'.passes behind steps hbehind)

theorem oneOf (texts : List (List Char)) :
    Builds (·.oneOf texts) fun x y => ∃ s ∈ texts, Spot.Over s x y := by
  induction texts with
  | nil =>
    have hnone : Builds (·.step (.take .none)) _ := step fun _ _ _ => Passes.take
    exact hnone.congr fun x y => by simp [CharSet.contains_none]
  | cons s rest ih =>
    cases rest with
    | nil => exact (text s).congr fun x y => by simp
    | cons t rest => exact ((text s).fork ih).congr fun x y => by simp

/-- Repetition goes to the front: what is built last matches first. -/
theorem iterate (h : Builds f M) (n : Nat) : Builds (Nat.repeat f n) (Repeated M n) := by
  induction n with
  | zero => exact .id
  | succ n ih => exact h.comp ih

theorem keeps_loop (h : Builds f M) (d : Draft) : d.steps.toList <+: (d.loop f).1.steps.toList := by
  obtain ⟨made, hmade⟩ := (d.keeps_step (.fork d.entry)).trans (h.keeps _)
  rw [Draft.loop, Array.toList_setIfInBounds, ← hmade]
  -- The place that is set again is the first one behind the draft.
  rw [List.set_append_right _ _ (Nat.le_of_eq Array.length_toList)]
  exact List.prefix_append _ _

/-- The body of a loop goes from the entry to the place behind it, and this place back through the
body or to the exit. -/
theorem passes_loop (h : Builds f M) {d : Draft}
    (hheld : (d.loop f).1.HeldFrom d.steps.size steps) :
    Passes steps (d.loop f).1.entry (d.loop f).2 M ∧
    Passes steps (d.loop f).2 d.entry fun x y => ∃ n, Repeated M n x y := by
  let start := d.step (.fork d.entry)
  let inside := f start
  have hmade : (d.loop f).1.steps =
      inside.steps.setIfInBounds d.steps.size (.fork inside.entry d.entry) := rfl
  have hstart : start.steps.size = d.steps.size + 1 := Array.size_push _
  have hsize : start.steps.size ≤ inside.steps.size := h.grows start
  rw [Draft.HeldFrom, hmade, Array.size_setIfInBounds] at hheld
  have hbody : Passes steps inside.entry d.steps.size M := by
    apply h.passes start
    intro i hplace hi
    rw [hheld i (by omega) hi]
    exact Array.getElem?_setIfInBounds_ne (by omega)
  have hback : steps[d.steps.size]? = some (.fork inside.entry d.entry) := by
    rw [hheld d.steps.size (Nat.le_refl _) (by omega)]
    exact Array.getElem?_setIfInBounds_self_of_lt (by omega)
  exact ⟨hbody, .loop hback hbody⟩

/-- Once or more often. -/
theorem loop (h : Builds f M) :
    Builds (fun d => (d.loop f).1) fun x y => ∃ n, 1 ≤ n ∧ Repeated M n x y where
  keeps := h.keeps_loop
  passes d steps hheld := by
    obtain ⟨hbody, hback⟩ := h.passes_loop hheld
    exact (hbody.comp hback).congr fun _ _ => repeated_pos_iff

/-- Any number of times. -/
theorem star (h : Builds f M) :
    Builds (fun d => { (d.loop f).1 with entry := (d.loop f).2 })
      fun x y => ∃ n, Repeated M n x y where
  keeps := h.keeps_loop
  passes _ _ hheld := (h.passes_loop hheld).2

theorem keeps_atMost (h : Builds f M) (count : Nat) (d : Draft) :
    d.steps.toList <+: (d.atMost f count).steps.toList := by
  induction count with
  | zero => exact List.prefix_rfl
  | succ count ih =>
    let inside := f (d.atMost f count)
    exact (ih.trans (h.keeps (d.atMost f count))).trans (inside.keeps_step (.fork d.entry))

theorem atMost (h : Builds f M) (count : Nat) :
    Builds (·.atMost f count) fun x y => ∃ n ≤ count, Repeated M n x y where
  keeps := h.keeps_atMost count
  passes d steps := by
    induction count with
    | zero =>
      intro _
      exact (Passes.refl d.entry).congr fun x y => by simp [Repeated]
    | succ count ih =>
      intro hheld
      let made := d.atMost f count
      let inside := f made
      have hmade : d.steps.size ≤ made.steps.size := (h.keeps_atMost count d).length_le
      have hinside : inside.HeldFrom d.steps.size steps :=
        Draft.HeldFrom.of_prefix hheld (inside.keeps_step (.fork d.entry))
      have hrest := ih (hinside.of_prefix (h.keeps made))
      have hround : Passes steps inside.entry made.entry M :=
        h.passes made steps fun i hplace => hinside i (Nat.le_trans hmade hplace)
      have hfork : steps[(inside.step (.fork d.entry)).entry]? =
          some (.fork d.entry inside.entry) :=
        Draft.HeldFrom.entry hheld (Nat.le_trans hmade (h.grows made))
      exact (Passes.fork hfork (.refl d.entry) (hround.comp hrest)).congr fun _ _ =>
        repeated_le_succ_iff

end Builds

/-! ## Expressions -/

/-- What an expression adds to a draft lets pass its matches. -/
theorem builds_add (r : Regex) : Builds (Draft.add r) (Matches r) := by
  induction r with
  | empty => exact .id
  | text s => exact .text s
  | set s => exact .step fun _ _ _ => .take
  | look l => exact .step fun _ _ _ => .check
  | group index r ih => exact ih
  | seq a b iha ihb => exact iha.comp ihb
  | oneOf texts => exact .oneOf texts
  | alt a b iha ihb => exact iha.fork ihb
  | times r least most greedy ih =>
    cases most with
    | none =>
      cases least with
      | zero => exact ih.star.congr fun x y => by simp [Matches]
      | succ least =>
        apply ((ih.iterate least).comp ih.loop).congr
        intro x y
        have hcount (n : Nat) : least ≤ n ∧ 1 ≤ n - least ↔ least + 1 ≤ n := by omega
        rw [repeated_add_iff]
        simp [← and_assoc, hcount, Matches]
    | some most =>
      have hadd : Draft.add (.times r least (some most) greedy) =
          Nat.repeat (Draft.add r) least ∘ (·.atMost (Draft.add r) (most - least)) := by
        funext d
        rw [Draft.add, Function.comp]
      rw [hadd]
      apply ((ih.iterate least).comp (ih.atMost (most - least))).congr
      intro x y
      have hcount (n : Nat) : least ≤ n ∧ n - least ≤ most - least ↔
          least ≤ n ∧ n ≤ max least most := by omega
      rw [repeated_add_iff]
      simp only [← and_assoc, hcount, Matches, Option.mem_some_iff, forall_eq']

/-- The machine of an expression completes its matches. -/
theorem live_machine_iff (r : Regex) (x : Spot) :
    Live r.machine.steps r.machine.start x ↔ ∃ y, r.Matches x y := by
  let start : Draft := ⟨#[.accept], 0⟩
  have hbuilds := builds_add r
  have hpasses : Passes r.machine.steps r.machine.start 0 r.Matches :=
    hbuilds.passes start r.machine.steps fun i _ _ => rfl
  have haccept : r.machine.steps[0]? = some .accept := by
    have hfirst := List.prefix_iff_getElem?.1 (hbuilds.keeps start) 0 Nat.zero_lt_one
    rwa [Array.getElem?_toList] at hfirst
  constructor
  · rintro ⟨n, h⟩
    obtain ⟨y, -, hmatch, -⟩ := hpasses.onto h
    exact ⟨y, hmatch⟩
  · rintro ⟨y, hmatch⟩
    exact hpasses.back hmatch ⟨0, haccept⟩

end FeatureFlags.Regex
