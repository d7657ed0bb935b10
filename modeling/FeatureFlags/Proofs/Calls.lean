import FeatureFlags.Hook.Lifecycle
import FeatureFlags.Provider.Basic

/-!
# Calls of foreign code

Hooks, backends and observers are foreign: functions of what they are handed and of the store, which
they may change as they like. A run of the library is a chain of calls of such code, each from the
store that the one before left; in between the library changes only what is its own. The statements
about runs say which calls such a chain has, in which order, and what each of them is handed.
-/
namespace FeatureFlags

variable {α β : Type}

namespace Eval

/-- The outcome of a computation from a store, beside the store that it leaves. -/
def on (x : Eval α) (s : Store) : Except Crash α × Store := x.run s

@[simp]
theorem on_report (severity : Severity) (message : String) (fields : List (String × Json))
    (s : Store) : (report severity message fields).on s =
      (.ok (), { s with log := s.log ++ [⟨severity, message, fields⟩] }) := rfl

/-- A thread of its own keeps a crash to itself, and gives the thread that ran before back. -/
@[simp]
theorem on_onThread (x : Eval α) (s : Store) :
    (onThread x).on s =
      (.ok (x.on { s with thread := s.threads, threads := s.threads + 1 }).1,
        { (x.on { s with thread := s.threads, threads := s.threads + 1 }).2 with
          thread := s.thread }) := rfl

theorem on_bind (x : Eval α) (f : α → Eval β) (s : Store) :
    (x >>= f).on s = match x.on s with
      | (.ok a, s₁) => (f a).on s₁
      | (.error e, s₁) => (.error e, s₁) := by
  change (let p := x.on s; (ExceptT.bindCont f p.1 : StateM Store _) p.2) = _
  rcases x.on s with ⟨_ | _, s₁⟩ <;> rfl

theorem on_bind_ok {x : Eval α} {f : α → Eval β} {s s₁ : Store} {a : α}
    (h : x.on s = (.ok a, s₁)) : (x >>= f).on s = (f a).on s₁ := by
  rw [on_bind, h]

theorem on_bind_error {x : Eval α} {f : α → Eval β} {s s₁ : Store} {e : Crash}
    (h : x.on s = (.error e, s₁)) : (x >>= f).on s = (.error e, s₁) := by
  rw [on_bind, h]

/-- Giving a result leaves the store alone. -/
@[simp]
theorem on_bind_pure (x : Eval α) (g : α → β) (s : Store) :
    (x >>= fun a => pure (g a)).on s = ((x.on s).1.map g, (x.on s).2) := by
  rcases h : x.on s with ⟨e | a, s₁⟩
  · rw [on_bind_error h]
    rfl
  · rw [on_bind_ok h]
    rfl

end Eval

/-- What foreign code is asked for: a stage of a hook, an answer in a context, or the status of a
backend; or it is told that members of a comparison differ. -/
inductive Request where
  | before (hook : Hook) (seen : HookContext) (hints : Hints)
  | resolve (t : FlagType) (ask : Context → Eval (Resolution t.Value)) (context : Context)
  | after (hook : Hook) (seen : HookContext) (details : Evaluation Json) (hints : Hints)
  | error (hook : Hook) (seen : HookContext) (error : EvaluationError) (hints : Hints)
  | atEnd (hook : Hook) (seen : HookContext) (details : Evaluation Json) (hints : Hints)
  | status (backend : Provider)
  | mismatch (observer : String → List MemberAnswer → Eval Unit) (flag : String)
    (answers : List MemberAnswer)

namespace Request

abbrev Answer : Request → Type
  | before .. => Except EvaluationError (Option Context)
  | resolve t .. => Resolution t.Value
  | after .. => Except EvaluationError Unit
  | error .. | atEnd .. | mismatch .. => Unit
  | status _ => Status

def perform : (q : Request) → Eval q.Answer
  | before hook seen hints => hook.before seen hints
  | resolve _ ask context => ask context
  | after hook seen details hints => hook.after seen details hints
  | error hook seen e hints => hook.onError seen e hints
  | atEnd hook seen details hints => hook.atEnd seen details hints
  | status backend => backend.status
  | mismatch observer flag answers => observer flag answers

theorem exists_value (t : FlagType) : ∃ _ : t.Value, True := by
  cases t
  · exact ⟨false, trivial⟩
  · exact ⟨"", trivial⟩
  · exact ⟨(0 : Int64), trivial⟩
  · exact ⟨Double.zero false, trivial⟩
  · exact ⟨Json.null, trivial⟩

theorem exists_answer (q : Request) : ∃ _ : q.Answer, True := by
  cases q with
  | before => exact ⟨.ok none, trivial⟩
  | resolve t =>
    obtain ⟨value, -⟩ := exists_value t
    exact ⟨.ofValue value, trivial⟩
  | after => exact ⟨.ok (), trivial⟩
  | error => exact ⟨(), trivial⟩
  | atEnd => exact ⟨(), trivial⟩
  | status => exact ⟨Status.ready, trivial⟩
  | mismatch => exact ⟨(), trivial⟩

end Request

/-- A request that was made, with what came of it. -/
structure Call where
  request : Request
  outcome : Except Crash request.Answer

/-- A run of calls from one store to another. In between the library does what `own` allows. -/
inductive Chain (own : Store → Store → Prop) : Store → List Call → Store → Prop where
  | done (s : Store) : Chain own s [] s
  | own {s s₁ s' : Store} {l : List Call} (h : own s s₁) (rest : Chain own s₁ l s') :
    Chain own s l s'
  | call {s s₁ s' : Store} {c : Call} {l : List Call} (h : c.request.perform.on s = (c.outcome, s₁))
    (rest : Chain own s₁ l s') : Chain own s (c :: l) s'

namespace Chain

variable {own : Store → Store → Prop} {s s₁ s' : Store} {l l₁ l₂ : List Call}

theorem append (h₁ : Chain own s l₁ s₁) (h₂ : Chain own s₁ l₂ s') :
    Chain own s (l₁ ++ l₂) s' := by
  induction h₁ with
  | done => exact h₂
  | own h _ ih => exact .own h (ih h₂)
  | call h _ ih => exact .call h (ih h₂)

theorem mono {own' : Store → Store → Prop} (h : Chain own s l s')
    (sub : ∀ s s', own s s' → own' s s') : Chain own' s l s' := by
  induction h with
  | done s => exact .done s
  | own h _ ih => exact .own (sub _ _ h) ih
  | call h _ ih => exact .call h ih

/-- What the library does alone is a chain without calls. -/
theorem of_own (h : own s s') : Chain own s [] s' := .own h (.done s')

theorem single (q : Request) (s : Store) :
    Chain own s [⟨q, (q.perform.on s).1⟩] (q.perform.on s).2 :=
  .call rfl (.done _)

/-- A chain is cut at any of its calls. -/
theorem split {c : Call} (h : Chain own s (l₁ ++ c :: l₂) s') :
    ∃ s₁ s₂, Chain own s l₁ s₁ ∧ c.request.perform.on s₁ = (c.outcome, s₂) ∧
      Chain own s₂ l₂ s' := by
  generalize hl : l₁ ++ c :: l₂ = l at h
  induction h generalizing l₁ with
  | done s => exact absurd hl (by simp)
  | own hown _ ih =>
    obtain ⟨s₁, s₂, hfirst, hcall, hrest⟩ := ih hl
    exact ⟨s₁, s₂, .own hown hfirst, hcall, hrest⟩
  | @call s s₁ s' d l hd hchain ih =>
    cases l₁ with
    | nil =>
      obtain ⟨rfl, rfl⟩ := List.cons.inj hl
      exact ⟨s, s₁, .done s, hd, hchain⟩
    | cons e rest =>
      obtain ⟨rfl, hrest⟩ := List.cons.inj hl
      obtain ⟨s₂, s₃, hfirst, hcall, hbehind⟩ := ih hrest
      exact ⟨s₂, s₃, .call hd hfirst, hcall, hbehind⟩

/-- In the place of a call there is what the call does. -/
theorem replace {c : Call} {Φ : List Call → Prop} (h : Chain own s (l₁ ++ c :: l₂) s')
    (hc : ∀ s₁, ∃ inner, Chain own s₁ inner (c.request.perform.on s₁).2 ∧ Φ inner) :
    ∃ inner, Chain own s (l₁ ++ inner ++ l₂) s' ∧ Φ inner := by
  obtain ⟨s₁, s₂, hfirst, hcall, hrest⟩ := h.split
  obtain ⟨inner, hinner, hΦ⟩ := hc s₁
  rw [hcall] at hinner
  exact ⟨inner, (hfirst.append hinner).append hrest, hΦ⟩

/-- Calls that are not of a kind are replaced by what they do, which is of that kind. -/
theorem refine {Φ : Call → Prop} (h : Chain own s l s')
    (hl : ∀ c ∈ l, Φ c ∨
      ∀ s₁, ∃ inner, Chain own s₁ inner (c.request.perform.on s₁).2 ∧ ∀ d ∈ inner, Φ d) :
    ∃ l', Chain own s l' s' ∧ ∀ d ∈ l', Φ d := by
  induction h with
  | done s => exact ⟨[], .done s, fun _ hd => absurd hd List.not_mem_nil⟩
  | own hown _ ih =>
    obtain ⟨l', hchain, hΦ⟩ := ih hl
    exact ⟨l', .own hown hchain, hΦ⟩
  | @call s s₁ s' c l hc _ ih =>
    obtain ⟨l', hchain, hΦ⟩ := ih fun d hd => hl d (List.mem_cons_of_mem c hd)
    rcases hl c List.mem_cons_self with hkept | hopened
    · exact ⟨c :: l', .call hc hchain, List.forall_mem_cons.2 ⟨hkept, hΦ⟩⟩
    · obtain ⟨inner, hinner, hΦ'⟩ := hopened s
      rw [hc] at hinner
      exact ⟨inner ++ l', hinner.append hchain, List.forall_mem_append.2 ⟨hΦ', hΦ⟩⟩

/-- Every call of a chain was made from some store. -/
theorem made (h : Chain own s l s') {c : Call} (hc : c ∈ l) :
    ∃ s₁ s₂, c.request.perform.on s₁ = (c.outcome, s₂) := by
  induction h with
  | done => cases hc
  | own _ _ ih => exact ih hc
  | call h _ ih =>
    rcases List.mem_cons.1 hc with rfl | hc
    · exact ⟨_, _, h⟩
    · exact ih hc

end Chain

/-- The library writes its log and does nothing else. -/
def Store.Logged (s s' : Store) : Prop := ∃ records, s' = { s with log := s.log ++ records }

/-- The library changes its own state: the thread that runs, caches, captures and the log. -/
def Store.Internal (s s' : Store) : Prop :=
  s' = { s with
    thread := s'.thread
    threads := s'.threads
    caches := s'.caches
    captures := s'.captures
    log := s'.log }

theorem Store.Logged.internal {s s' : Store} (h : s.Logged s') : s.Internal s' := by
  obtain ⟨records, rfl⟩ := h
  rfl

theorem Store.logged_report (severity : Severity) (message : String)
    (fields : List (String × Json)) (s : Store) :
    s.Logged ((Eval.report severity message fields).on s).2 := ⟨_, rfl⟩

/-- How calls along a course end: all of them came back, or the last one crashed. A call that
crashed was due: with some answer to it the course goes on. -/
inductive Ends (course : List Call → α → Prop) : List Call → Except Crash α → Prop where
  | returned {l : List Call} {a : α} (h : course l a) : Ends course l (.ok a)
  | crashed {l more : List Call} {q : Request} {answer : q.Answer} {a : α}
    (h : course (l ++ ⟨q, .ok answer⟩ :: more) a) : Ends course (l ++ [⟨q, .error .crash⟩])
      (.error .crash)

/-- Every run of `x` is a chain of calls along a course. -/
structure Follows (own : Store → Store → Prop) (x : Eval α) (course : List Call → α → Prop) :
    Prop where
  possible : ∃ l a, course l a
  run : ∀ s, ∃ l, Chain own s l (x.on s).2 ∧ Ends course l (x.on s).1

namespace Follows

variable {own : Store → Store → Prop} {x : Eval α} {f : α → Eval β}
  {C C' : List Call → α → Prop} {D : α → List Call → β → Prop}

protected theorem pure (a : α) : Follows own (pure a) fun l b => l = [] ∧ b = a where
  possible := ⟨[], a, rfl, rfl⟩
  run s := ⟨[], .done s, .returned ⟨rfl, rfl⟩⟩

theorem mono (h : Follows own x C) (sub : ∀ l a, C l a → C' l a) : Follows own x C' where
  possible := by
    obtain ⟨l, a, ha⟩ := h.possible
    exact ⟨l, a, sub l a ha⟩
  run s := by
    obtain ⟨l, hl, he⟩ := h.run s
    refine ⟨l, hl, ?_⟩
    generalize (x.on s).1 = r at he
    cases he with
    | returned hc => exact .returned (sub _ _ hc)
    | crashed hc => exact .crashed (sub _ _ hc)

/-- One request, whose answer is the result. -/
theorem request (q : Request) : Follows own q.perform fun l a => l = [⟨q, .ok a⟩] where
  possible := by
    obtain ⟨a, -⟩ := q.exists_answer
    exact ⟨_, a, rfl⟩
  run s := by
    refine ⟨_, Chain.single q s, ?_⟩
    cases h : (q.perform.on s).1 with
    | ok a => exact .returned rfl
    | error e =>
      obtain ⟨a, -⟩ := q.exists_answer
      exact @Ends.crashed _ _ [] [] q a a rfl

/-- What the library does on its own is no call. -/
theorem step {g : Store → Store} (h : ∀ s, own s (g s)) :
    Follows own (modify g) fun l _ => l = [] where
  possible := ⟨[], (), rfl⟩
  run s := ⟨[], .own (h s) (.done _), .returned rfl⟩

theorem report (severity : Severity) (message : String) (fields : List (String × Json)) :
    Follows Store.Logged (Eval.report severity message fields) fun l _ => l = [] :=
  step (Store.logged_report severity message fields)

theorem bind (hx : Follows own x C) (hf : ∀ a, Follows own (f a) (D a)) :
    Follows own (x >>= f) fun l b => ∃ l₁ a l₂, l = l₁ ++ l₂ ∧ C l₁ a ∧ D a l₂ b where
  possible := by
    obtain ⟨l₁, a, ha⟩ := hx.possible
    obtain ⟨l₂, b, hb⟩ := (hf a).possible
    exact ⟨_, b, l₁, a, l₂, rfl, ha, hb⟩
  run s := by
    obtain ⟨l₁, hl₁, h₁⟩ := hx.run s
    rcases hxs : x.on s with ⟨r, s₁⟩
    rw [hxs] at hl₁ h₁
    cases h₁ with
    | returned hc =>
      rename_i a
      obtain ⟨l₂, hl₂, h₂⟩ := (hf a).run s₁
      rw [Eval.on_bind_ok hxs]
      refine ⟨l₁ ++ l₂, hl₁.append hl₂, ?_⟩
      generalize ((f a).on s₁).1 = r at h₂
      cases h₂ with
      | returned hd => exact .returned ⟨l₁, a, l₂, rfl, hc, hd⟩
      | crashed hd =>
        rw [← List.append_assoc]
        exact .crashed ⟨l₁, a, _, by rw [List.append_assoc], hc, hd⟩
    | crashed hc =>
      rename_i a
      rw [Eval.on_bind_error hxs]
      obtain ⟨l₂, b, hb⟩ := (hf a).possible
      exact ⟨_, hl₁, .crashed ⟨_, a, l₂, by rw [List.append_assoc, List.cons_append], hc, hb⟩⟩

theorem forM {ι : Type} {f : ι → Eval Unit} {c : ι → Call}
    (h : ∀ i, Follows own (f i) fun l _ => l = [c i]) (is : List ι) :
    Follows own (is.forM f) fun l _ => l = is.map c := by
  induction is with
  | nil => exact (Follows.pure ()).mono fun l _ hl => hl.1
  | cons i rest ih =>
    change Follows own (f i >>= fun _ => rest.forM f) _
    refine ((h i).bind fun _ => ih).mono ?_
    rintro l _ ⟨l₁, _, l₂, rfl, rfl, rfl⟩
    rfl

end Follows

end FeatureFlags
