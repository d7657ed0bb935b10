import FeatureFlags.Proofs.Calls

/-!
# Runs from a condition

A triple for computations that make calls: from every store with `P`, a run is a chain of allowed
calls, and it leaves a store with `Q` if it gives a result and one with `E` if it crashes. What the
library does in between is its own business as long as it stays within its own state.
-/
namespace FeatureFlags

variable {α β : Type}

/-- How a run ended. -/
def Ended (Q : α → Store → Prop) (E : Store → Prop) : Except Crash α × Store → Prop
  | (.ok a, s) => Q a s
  | (.error _, s) => E s

theorem Ended.mono {Q Q' : α → Store → Prop} {E E' : Store → Prop}
    {result : Except Crash α × Store} (h : Ended Q E result) (hpost : ∀ a s, Q a s → Q' a s)
    (hcrash : ∀ s, E s → E' s) : Ended Q' E' result := by
  rcases result with ⟨e | a, s⟩
  · exact hcrash s h
  · exact hpost a s h

/-- The same store may be left by a result and by a crash. -/
theorem ended_iff {P : Store → Prop} {result : Except Crash α × Store} :
    Ended (fun _ => P) P result ↔ P result.2 := by
  rcases result with ⟨e | a, s⟩
  · exact Iff.rfl
  · exact Iff.rfl

def Runs (allowed : Call → Prop) (P : Store → Prop) (x : Eval α) (Q : α → Store → Prop)
    (E : Store → Prop) : Prop :=
  ∀ s, P s → (∃ calls, Chain Store.Internal s calls (x.on s).2 ∧ ∀ call ∈ calls, allowed call) ∧
    Ended Q E (x.on s)

namespace Runs

variable {allowed : Call → Prop} {P P' : Store → Prop} {x : Eval α} {f : α → Eval β}
  {Q Q' : α → Store → Prop} {R : β → Store → Prop} {E E' : Store → Prop}

theorem mono (h : Runs allowed P x Q E) (hpre : ∀ s, P' s → P s) (hpost : ∀ a s, Q a s → Q' a s)
    (hcrash : ∀ s, E s → E' s) : Runs allowed P' x Q' E' := by
  intro s hs
  obtain ⟨hcalls, hend⟩ := h s (hpre s hs)
  exact ⟨hcalls, hend.mono hpost hcrash⟩

theorem pre (h : Runs allowed P x Q E) (hpre : ∀ s, P' s → P s) : Runs allowed P' x Q E :=
  h.mono hpre (fun _ _ hs => hs) fun _ hs => hs

theorem post (h : Runs allowed P x Q E) (hpost : ∀ a s, Q a s → Q' a s) :
    Runs allowed P x Q' E :=
  h.mono (fun _ hs => hs) hpost fun _ hs => hs

/-- What is known of a result before the run goes on. -/
theorem known {φ : Prop} (h : φ → Runs allowed P x Q E) :
    Runs allowed (fun s => φ ∧ P s) x Q E := fun s hs => h hs.1 s hs.2

protected theorem pure (a : α) (h : ∀ s, P s → Q a s) : Runs allowed P (pure a) Q E :=
  fun s hs => ⟨⟨[], .done s, fun _ hc => absurd hc List.not_mem_nil⟩, h s hs⟩

/-- A result changes nothing. -/
theorem done (a : α) : Runs allowed P (Pure.pure a) (fun _ => P) E := Runs.pure a fun _ hs => hs

theorem bind (hx : Runs allowed P x Q E) (hf : ∀ a, Runs allowed (Q a) (f a) R E) :
    Runs allowed P (x >>= f) R E := by
  intro s hs
  obtain ⟨⟨before, hbefore, hallowed⟩, hend⟩ := hx s hs
  rcases hrun : x.on s with ⟨e | a, s₁⟩ <;> rw [hrun] at hbefore hend
  · rw [Eval.on_bind_error hrun]
    exact ⟨⟨before, hbefore, hallowed⟩, hend⟩
  · obtain ⟨⟨behind, hbehind, hallowed'⟩, hend'⟩ := hf a s₁ hend
    rw [Eval.on_bind_ok hrun]
    refine ⟨⟨before ++ behind, hbefore.append hbehind, ?_⟩, hend'⟩
    intro call hcall
    rcases List.mem_append.1 hcall with hcall | hcall
    · exact hallowed call hcall
    · exact hallowed' call hcall

/-- What the library does alone. -/
theorem internal (h : ∀ s, P s → ∃ a s₁, x.on s = (.ok a, s₁) ∧ s.Internal s₁ ∧ Q a s₁) :
    Runs allowed P x Q E := by
  intro s hs
  obtain ⟨a, s₁, hrun, hown, hpost⟩ := h s hs
  rw [hrun]
  exact ⟨⟨[], .of_own hown, fun _ hc => absurd hc List.not_mem_nil⟩, hpost⟩

theorem request (q : Request) {Q : q.Answer → Store → Prop}
    (hallowed : ∀ outcome, allowed ⟨q, outcome⟩)
    (h : ∀ s, P s → Ended Q E (q.perform.on s)) : Runs allowed P q.perform Q E := by
  intro s hs
  refine ⟨⟨_, Chain.single q s, ?_⟩, h s hs⟩
  intro call hcall
  rw [List.mem_singleton.1 hcall]
  exact hallowed _

/-- A loop whose steps all keep a condition. -/
theorem forM {ι : Type} {f : ι → Eval Unit} {is : List ι}
    (h : ∀ i ∈ is, Runs allowed P (f i) (fun _ => P) E) :
    Runs allowed P (is.forM f) (fun _ => P) E := by
  induction is with
  | nil => exact Runs.done ()
  | cons i rest ih =>
    change Runs allowed P (f i >>= fun _ => rest.forM f) (fun _ => P) E
    exact (h i List.mem_cons_self).bind fun _ => ih fun j hj => h j (List.mem_cons_of_mem i hj)

theorem mapM {ι : Type} {f : ι → Eval β} {is : List ι}
    (h : ∀ i ∈ is, Runs allowed P (f i) (fun _ => P) E) :
    Runs allowed P (is.mapM f) (fun _ => P) E := by
  induction is with
  | nil => exact Runs.done []
  | cons i rest ih =>
    rw [List.mapM_cons]
    exact (h i List.mem_cons_self).bind fun b =>
      (ih fun j hj => h j (List.mem_cons_of_mem i hj)).bind fun bs =>
        Runs.done (b :: bs)

/-- On a thread of its own a computation may end as it likes. -/
theorem onThread {Q : Store → Prop}
    (h : ∀ s, P s → ∃ away : Store → Prop,
      away { s with thread := s.threads, threads := s.threads + 1 } ∧
        Runs allowed away x (fun _ s₁ => Q { s₁ with thread := s.thread })
          fun s₁ => Q { s₁ with thread := s.thread }) :
    Runs allowed P (Eval.onThread x) (fun _ => Q) E := by
  intro s hs
  obtain ⟨away, haway, hx⟩ := h s hs
  obtain ⟨⟨calls, hchain, hallowed⟩, hend⟩ := hx _ haway
  have hback : ((x.on { s with thread := s.threads, threads := s.threads + 1 }).2).Internal
    ((Eval.onThread x).on s).2 := rfl
  have hout : s.Internal { s with thread := s.threads, threads := s.threads + 1 } := rfl
  refine ⟨⟨calls, ?_, hallowed⟩, ?_⟩
  · have hall := Chain.own hout (hchain.append (.of_own hback))
    rwa [List.append_nil] at hall
  · rw [Eval.on_onThread]
    exact ended_iff.1 hend

end Runs

end FeatureFlags
