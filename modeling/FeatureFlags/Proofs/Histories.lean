import FeatureFlags.Proofs.Cache.Contents
import FeatureFlags.Proofs.Calls

/-!
# Histories

A triple for what runs leave behind: from every history of calls and every store that satisfy an
invariant, a run adds its calls to the history, the longer history and the new store satisfy the
invariant again, and what is known of a result is said in terms of the longer history. A crash
leaves the invariant as it is and gives no result.
-/
namespace FeatureFlags

variable {α β : Type}

/-- Something that stays true when more calls are made. -/
def Grows (F : List Call → Prop) : Prop := ∀ past more, F past → F (past ++ more)

theorem grows_true : Grows fun _ => True := fun _ _ _ => trivial

theorem Grows.and {F G : List Call → Prop} (hF : Grows F) (hG : Grows G) :
    Grows fun past => F past ∧ G past := fun past more h =>
  ⟨hF past more h.1, hG past more h.2⟩

theorem grows_mem (c : Call) : Grows (c ∈ ·) := fun _ _ h => List.mem_append_left _ h

/-- No cache holds anything that it did not hold before. -/
def Store.Forgets (s s' : Store) : Prop :=
  ∀ owner key detail, (s'.caches owner).Holds key detail → (s.caches owner).Holds key detail

/-- From a history with `F`, a run of `x` keeps the invariant `I`, and `R` is known of a result. -/
def Yields (I : List Call → Store → Prop) (F : List Call → Prop) (x : Eval α)
    (R : α → List Call → Prop) : Prop :=
  ∀ past s, I past s → F past → ∃ calls, Chain Store.Internal s calls (x.on s).2 ∧
    I (past ++ calls) (x.on s).2 ∧ ∀ a, (x.on s).1 = .ok a → R a (past ++ calls)

/-- An answer that foreign code gives to a request in some store. -/
def Request.Allows (q : Request) (a : q.Answer) : Prop := ∃ s s', q.perform.on s = (.ok a, s')

/-- A request keeps an invariant. -/
def Request.Keeps (I : List Call → Store → Prop) (q : Request) : Prop :=
  ∀ past s, I past s → I (past ++ [⟨q, (q.perform.on s).1⟩]) (q.perform.on s).2

/-- An invariant about what caches hold that more calls do not spoil. -/
structure Lasting (I : List Call → Store → Prop) : Prop where
  forgets {past : List Call} {s s' : Store} (h : I past s) (hs : s.Forgets s') : I past s'
  longer {past : List Call} {s : Store} (h : I past s) (more : List Call) : I (past ++ more) s

theorem Request.keeps_of_forgets {I : List Call → Store → Prop} (hI : Lasting I) {q : Request}
    (h : ∀ s : Store, s.Forgets (q.perform.on s).2) : q.Keeps I := fun _ s hs =>
  hI.longer (hI.forgets hs (h s)) _

namespace Yields

variable {I : List Call → Store → Prop} {F G : List Call → Prop} {x : Eval α} {f : α → Eval β}
  {R R' : α → List Call → Prop} {T : β → List Call → Prop}

theorem mono (h : Yields I F x R) (hpre : ∀ past, G past → F past)
    (hpost : ∀ a past, R a past → R' a past) : Yields I G x R' := by
  intro past s hs hG
  obtain ⟨calls, hchain, hI, hR⟩ := h past s hs (hpre past hG)
  exact ⟨calls, hchain, hI, fun a ha => hpost a _ (hR a ha)⟩

theorem post (h : Yields I F x R) (hpost : ∀ a past, R a past → R' a past) : Yields I F x R' :=
  h.mono (fun _ hF => hF) hpost

theorem pre (h : Yields I F x R) (hpre : ∀ past, G past → F past) : Yields I G x R :=
  h.mono hpre fun _ _ hR => hR

/-- What stays true is still known behind a run. -/
theorem frame (h : Yields I (fun _ => True) x R) (hG : Grows G) :
    Yields I G x fun a past => R a past ∧ G past := by
  intro past s hs hpast
  obtain ⟨calls, hchain, hI, hR⟩ := h past s hs trivial
  exact ⟨calls, hchain, hI, fun a ha => ⟨hR a ha, hG past calls hpast⟩⟩

/-- What is known from the start. -/
theorem known {φ : Prop} (h : φ → Yields I F x R) : Yields I (fun past => φ ∧ F past) x R :=
  fun past s hs hF => h hF.1 past s hs hF.2

/-- What the library does alone. -/
theorem internal (h : ∀ past s, I past s → F past → ∃ a s₁, x.on s = (.ok a, s₁) ∧
    s.Internal s₁ ∧ I past s₁ ∧ R a past) : Yields I F x R := by
  intro past s hs hF
  obtain ⟨a, s₁, hrun, hown, hI, hR⟩ := h past s hs hF
  rw [hrun]
  refine ⟨[], .of_own hown, ?_, ?_⟩
  · rwa [List.append_nil]
  · rintro b ⟨⟩
    rwa [List.append_nil]

protected theorem pure (a : α) (h : ∀ past, F past → R a past) : Yields I F (pure a) R :=
  internal fun past s hs hF => ⟨a, s, rfl, rfl, hs, h past hF⟩

theorem bind (hx : Yields I F x R) (hf : ∀ a, Yields I (R a) (f a) T) : Yields I F (x >>= f) T := by
  intro past s hs hF
  obtain ⟨before, hbefore, hI, hR⟩ := hx past s hs hF
  rcases hrun : x.on s with ⟨e | a, s₁⟩ <;> rw [hrun] at hbefore hI hR
  · rw [Eval.on_bind_error hrun]
    exact ⟨before, hbefore, hI, nofun⟩
  · obtain ⟨behind, hbehind, hI', hT⟩ := hf a _ s₁ hI (hR a rfl)
    rw [Eval.on_bind_ok hrun]
    rw [List.append_assoc] at hI' hT
    exact ⟨before ++ behind, hbefore.append hbehind, hI', hT⟩

/-- A request is in the history behind it, with an answer that it can have. -/
theorem request (q : Request) (hq : q.Keeps I) :
    Yields I F q.perform fun a past => ⟨q, .ok a⟩ ∈ past ∧ q.Allows a := by
  intro past s hs _
  refine ⟨_, Chain.single q s, hq past s hs, fun a ha => ⟨?_, s, _, Prod.ext ha rfl⟩⟩
  rw [ha]
  exact List.mem_append_right _ List.mem_cons_self

section Loops

variable {ι : Type}

theorem forM {f : ι → Eval Unit} {is : List ι}
    (h : ∀ i ∈ is, Yields I (fun _ => True) (f i) fun _ _ => True) :
    Yields I F (is.forM f) fun _ _ => True := by
  induction is generalizing F with
  | nil => exact Yields.pure () fun _ _ => trivial
  | cons i rest ih =>
    change Yields I F (f i >>= fun _ => rest.forM f) _
    have hfirst := (h i List.mem_cons_self).pre fun past (_ : F past) => trivial
    exact hfirst.bind fun _ => ih fun j hj => h j (List.mem_cons_of_mem i hj)

theorem mapM {f : ι → Eval β} {is : List ι}
    (h : ∀ i ∈ is, Yields I (fun _ => True) (f i) fun _ _ => True) :
    Yields I F (is.mapM f) fun _ _ => True := by
  induction is generalizing F with
  | nil => exact Yields.pure [] fun _ _ => trivial
  | cons i rest ih =>
    rw [List.mapM_cons]
    have hfirst := (h i List.mem_cons_self).pre fun past (_ : F past) => trivial
    refine hfirst.bind fun b => ?_
    exact (ih fun j hj => h j (List.mem_cons_of_mem i hj)).bind fun bs =>
      Yields.pure (b :: bs) fun _ _ => trivial

end Loops

section Lasting

variable (hI : Lasting I)
include hI

/-- What the library does apart from putting something into a cache. -/
theorem forgetting (h : ∀ s, ∃ a s₁, x.on s = (.ok a, s₁) ∧ s.Internal s₁ ∧ s.Forgets s₁)
    (hF : ∀ a past, F past → R a past) : Yields I F x R :=
  internal fun past s hs hpast => by
    obtain ⟨a, s₁, hrun, hown, hless⟩ := h s
    exact ⟨a, s₁, hrun, hown, hI.forgets hs hless, hF a past hpast⟩

theorem report (severity : Severity) (message : String) (fields : List (String × Json)) :
    Yields I F (Eval.report severity message fields) fun _ => F :=
  forgetting hI (fun s => ⟨_, _, rfl, (Store.logged_report severity message fields s).internal,
    fun _ _ _ h => h⟩) fun _ _ hF => hF

/-- A thread of its own keeps a crash to itself. -/
theorem onThread (hx : Yields I F x R) :
    Yields I F (Eval.onThread x) fun outcome past => ∀ a, outcome = .ok a → R a past := by
  intro past s hs hF
  let away : Store := { s with thread := s.threads, threads := s.threads + 1 }
  have hout : s.Internal away := rfl
  have hback : (x.on away).2.Internal ((Eval.onThread x).on s).2 := rfl
  have haway : I past away := hI.forgets hs fun _ _ _ h => h
  obtain ⟨calls, hchain, hkept, hR⟩ := hx past away haway hF
  refine ⟨calls, ?_, hI.forgets hkept fun _ _ _ h => h, ?_⟩
  · have hall := Chain.own hout (hchain.append (.of_own hback))
    rwa [List.append_nil] at hall
  · rintro outcome ⟨⟩ a ha
    exact hR a ha

end Lasting

end Yields

end FeatureFlags
