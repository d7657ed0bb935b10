import FeatureFlags.Proofs.Client

/-!
# Runs side by side

Foreign code may keep a state of its own in the store, but does not see everything that a store
holds. Where it cannot tell two stores apart, evaluations from them go the same way. Behind its
`before` stage an evaluation asks for one answer, and the answer is reviewed.
-/
namespace FeatureFlags

variable {α β : Type}

/-- Stores that foreign code cannot tell apart. It sees neither the log nor what the isolator of a
number holds. -/
structure Alike (owner : Nat) (R : Store → Store → Prop) : Prop where
  symm {s s' : Store} (h : R s s') : R s' s
  trans {s s₁ s' : Store} (h : R s s₁) (h' : R s₁ s') : R s s'
  logged {s s₁ s' : Store} (h : R s s₁) (log : s₁.Logged s') : R s s'
  holds {s s₁ : Store} (h : R s s₁) (slot : Slots (Option Capture)) :
    R s { s₁ with captures := s₁.captures.set owner slot }

namespace Eval

/-- From stores that are alike a computation comes to the same outcome, and the stores that it
leaves are alike again. -/
def Respects (R : Store → Store → Prop) (x : Eval α) : Prop :=
  ∀ s s', R s s' → (x.on s).1 = (x.on s').1 ∧ R (x.on s).2 (x.on s').2

/-- A computation that never crashes. -/
def Returns (x : Eval α) : Prop := ∀ s, ∃ a s', x.on s = (.ok a, s')

variable {R : Store → Store → Prop} {x : Eval α} {f : α → Eval β}

namespace Respects

protected theorem pure (a : α) : (pure a : Eval α).Respects R := fun _ _ h => ⟨rfl, h⟩

theorem bind (hx : x.Respects R) (hf : ∀ a, (f a).Respects R) : (x >>= f).Respects R := by
  intro s s' h
  obtain ⟨houtcome, halike⟩ := hx s s' h
  rcases hrun : x.on s with ⟨outcome, s₁⟩
  rcases hrun' : x.on s' with ⟨outcome', s₁'⟩
  rw [hrun, hrun'] at houtcome halike
  obtain rfl : outcome = outcome' := houtcome
  cases outcome with
  | error e =>
    rw [on_bind_error hrun, on_bind_error hrun']
    exact ⟨rfl, halike⟩
  | ok a =>
    rw [on_bind_ok hrun, on_bind_ok hrun']
    exact hf a s₁ s₁' halike

/-- Both runs of a computation, with the outcome that they share. -/
theorem runs (hx : x.Respects R) {s s' : Store} (h : R s s') :
    ∃ outcome s₁ s₁', x.on s = (outcome, s₁) ∧ x.on s' = (outcome, s₁') ∧ R s₁ s₁' := by
  obtain ⟨houtcome, halike⟩ := hx s s' h
  exact ⟨(x.on s).1, (x.on s).2, (x.on s').2, rfl, Prod.ext houtcome.symm rfl, halike⟩

end Respects

namespace Returns

protected theorem pure (a : α) : (pure a : Eval α).Returns := fun s => ⟨a, s, rfl⟩

theorem bind (hx : x.Returns) (hf : ∀ a, (f a).Returns) : (x >>= f).Returns := by
  intro s
  obtain ⟨a, s₁, hrun⟩ := hx s
  rw [on_bind_ok hrun]
  exact hf a s₁

theorem forM {ι : Type} {f : ι → Eval Unit} {is : List ι} (h : ∀ i ∈ is, (f i).Returns) :
    (is.forM f).Returns := by
  induction is with
  | nil => exact .pure ()
  | cons i rest ih =>
    change (f i >>= fun _ => rest.forM f).Returns
    exact (h i List.mem_cons_self).bind fun _ => ih fun j hj => h j (List.mem_cons_of_mem i hj)

/-- What comes behind the result of a computation does not change that result. -/
theorem outcome_bind {g : α → Eval Unit} (hg : ∀ a, (g a).Returns) (x : Eval α) (s : Store) :
    ((x >>= fun a => g a >>= fun _ => pure a).on s).1 = (x.on s).1 := by
  rcases hrun : x.on s with ⟨e | a, s₁⟩
  · rw [on_bind_error hrun]
  · obtain ⟨_, s₂, hrest⟩ := hg a s₁
    rw [on_bind_ok hrun, on_bind_ok hrest]
    rfl

end Returns

end Eval

/-- The stages that only observe an evaluation never crash. -/
structure Hook.Observing (hook : Hook) : Prop where
  onError : ∀ hc e hints, (hook.onError hc e hints).Returns
  atEnd : ∀ hc details hints, (hook.atEnd hc details hints).Returns

/-- A hook that accepts or rejects an answer by its details alone. -/
def Hook.JudgesDetails (hook : Hook) : Prop :=
  ∀ details hints hc hc' s s',
    ((hook.after hc details hints).on s).1 = ((hook.after hc' details hints).on s').1

namespace Lifecycle

variable {R : Store → Store → Prop} {hooks more : List Hook} {hc hc' : HookContext} {hints : Hints}
  {details : Evaluation Json} {t : FlagType} {default : t.Value} {s s₁ s' : Store}

/-! ## Stages -/

theorem runBefore_append (hooks more : List Hook) (hc : HookContext) :
    runBefore hints (hooks ++ more) hc = runBefore hints hooks hc >>= fun begun =>
      match begun.2 with
      | .ok () => runBefore hints more begun.1
      | .error _ => pure begun := by
  induction hooks generalizing hc with
  | nil => rfl
  | cons hook rest ih =>
    rw [List.cons_append, runBefore, runBefore, bind_assoc]
    refine bind_congr fun answer => ?_
    rcases answer with e | _ | c
    · rfl
    · exact ih hc
    · exact ih _

theorem on_runBefore_append_crashed {e : Crash} (more : List Hook)
    (h : (runBefore hints hooks hc).on s = (.error e, s')) :
    (runBefore hints (hooks ++ more) hc).on s = (.error e, s') := by
  rw [runBefore_append, Eval.on_bind_error h]

theorem on_runBefore_append_failed {e : EvaluationError} (more : List Hook)
    (h : (runBefore hints hooks hc).on s = (.ok (hc', .error e), s')) :
    (runBefore hints (hooks ++ more) hc).on s = (.ok (hc', .error e), s') := by
  rw [runBefore_append, Eval.on_bind_ok h]
  rfl

theorem on_runBefore_append_passed (more : List Hook)
    (h : (runBefore hints hooks hc).on s = (.ok (hc', .ok ()), s')) :
    (runBefore hints (hooks ++ more) hc).on s = (runBefore hints more hc').on s' := by
  rw [runBefore_append, Eval.on_bind_ok h]

theorem runAfter_append (hooks more : List Hook) :
    runAfter hc details hints (hooks ++ more) = runAfter hc details hints hooks >>= fun verdict =>
      match verdict with
      | .ok () => runAfter hc details hints more
      | .error e => pure (.error e) := by
  induction hooks with
  | nil => rfl
  | cons hook rest ih =>
    rw [List.cons_append, runAfter, runAfter, bind_assoc]
    refine bind_congr fun verdict => ?_
    rcases verdict with e | _
    · rfl
    · exact ih

theorem runBefore_respects (h : ∀ hook ∈ hooks, ∀ hc hints, (hook.before hc hints).Respects R)
    (hints : Hints) (hc : HookContext) : (runBefore hints hooks hc).Respects R := by
  induction hooks generalizing hc with
  | nil => exact .pure _
  | cons hook rest ih =>
    have hrest := ih fun k hk => h k (List.mem_cons_of_mem hook hk)
    refine (h hook List.mem_cons_self hc hints).bind fun answer => ?_
    rcases answer with e | _ | c
    · exact .pure _
    · exact hrest hc
    · exact hrest _

/-- Hooks change nothing of what they are handed but the context. -/
theorem runBefore_context {begun : HookContext × Except EvaluationError Unit}
    (h : (runBefore hints hooks hc).on s = (.ok begun, s')) :
    ∃ c, begun.1 = { hc with context := c } := by
  induction hooks generalizing hc s with
  | nil =>
    cases h
    exact ⟨hc.context, rfl⟩
  | cons hook rest ih =>
    rw [runBefore] at h
    rcases hrun : (hook.before hc hints).on s with ⟨_ | e | _ | c, s₁⟩
    · rw [Eval.on_bind_error hrun] at h
      cases h
    · rw [Eval.on_bind_ok hrun] at h
      cases h
      exact ⟨hc.context, rfl⟩
    · rw [Eval.on_bind_ok hrun] at h
      exact ih h
    · rw [Eval.on_bind_ok hrun] at h
      have hrest : (runBefore hints rest (hc.enrich (some c))).on s₁ = (.ok begun, s') := h
      obtain ⟨context, heq⟩ := ih hrest
      exact ⟨context, heq⟩

theorem runAfter_respects
    (h : ∀ hook ∈ hooks, ∀ hc details hints, (hook.after hc details hints).Respects R) :
    (runAfter hc details hints hooks).Respects R := by
  induction hooks with
  | nil => exact .pure _
  | cons hook rest ih =>
    refine (h hook List.mem_cons_self hc details hints).bind fun verdict => ?_
    rcases verdict with e | _
    · exact .pure _
    · exact ih fun k hk => h k (List.mem_cons_of_mem hook hk)

/-- Hooks that judge by the details come to the same verdict whatever else they are handed. -/
theorem runAfter_judges (h : ∀ hook ∈ hooks, hook.JudgesDetails) (hc hc' : HookContext)
    (details : Evaluation Json) (hints : Hints) (s s' : Store) :
    ((runAfter hc details hints hooks).on s).1 = ((runAfter hc' details hints hooks).on s').1 := by
  induction hooks generalizing s s' with
  | nil => rfl
  | cons hook rest ih =>
    have hfirst := h hook List.mem_cons_self details hints hc hc' s s'
    rw [runAfter, runAfter, Eval.on_bind, Eval.on_bind]
    rcases hrun : (hook.after hc details hints).on s with ⟨outcome, s₁⟩
    rcases hrun' : (hook.after hc' details hints).on s' with ⟨outcome', s₁'⟩
    obtain rfl : outcome = outcome' := by rwa [hrun, hrun'] at hfirst
    rcases outcome with e | e | _
    · rfl
    · rfl
    · exact ih (fun k hk => h k (List.mem_cons_of_mem hook hk)) s₁ s₁'

theorem runError_returns (h : ∀ hook ∈ hooks, hook.Observing) (hc : HookContext)
    (e : EvaluationError) (hints : Hints) : (runError hooks hc e hints).Returns :=
  .forM fun hook hmem => (h hook (List.mem_reverse.1 hmem)).onError hc e hints

theorem runAtEnd_returns (h : ∀ hook ∈ hooks, hook.Observing) (hc : HookContext)
    (details : Evaluation Json) (hints : Hints) : (runAtEnd hooks hc details hints).Returns :=
  .forM fun hook hmem => (h hook (List.mem_reverse.1 hmem)).atEnd hc details hints

/-! ## Behind the `before` stage -/

/-- What becomes of an answer before the end. -/
def review (hooks : List Hook) (hc : HookContext) (hints : Hints) (default : t.Value)
    (r : Resolution t.Value) : Eval (Resolution t.Value) :=
  match r.error with
  | some e => do
    runError hooks hc e hints
    return r
  | none => do
    match ← runAfter hc (r.toJson.of hc.flag) hints hooks.reverse with
    | .ok () => return r
    | .error e =>
      Eval.report .warn ("after hook rejected evaluation: " ++ e.text)
        [("flag_key", .text hc.flag)]
      runError hooks hc e hints
      return .failed default e

/-- What becomes of an answer. -/
def conclude (hooks : List Hook) (hc : HookContext) (hints : Hints) (default : t.Value)
    (r : Resolution t.Value) : Eval (Resolution t.Value) := do
  let r ← review hooks hc hints default r
  runAtEnd hooks hc (r.toJson.of hc.flag) hints
  return r

/-- The result that a verdict on an answer leads to. -/
def judged (default : t.Value) (r : Resolution t.Value) :
    Except EvaluationError Unit → Resolution t.Value
  | .ok () => r
  | .error e => .failed default e

theorem evaluate_crashed {e : Crash} (hbefore : (runBefore hints hooks hc).on s = (.error e, s₁))
    (resolve : Context → Eval (Resolution t.Value)) :
    (evaluate hooks hc hints default resolve).on s = (.error e, s₁) :=
  Eval.on_bind_error hbefore

/-- A failure of a `before` hook is the result, and no answer is asked for. -/
theorem evaluate_stopped (h : ∀ hook ∈ hooks, hook.Observing) (default : t.Value)
    {e : EvaluationError}
    (hbefore : (runBefore hints hooks hc).on s = (.ok (hc', .error e), s₁)) :
    ∃ s', ∀ resolve : Context → Eval (Resolution t.Value),
      (evaluate hooks hc hints default resolve).on s = (.ok (.failed default e), s') := by
  have hsettle : ∃ s₂, ∀ resolve : Context → Eval (Resolution t.Value),
      (settle hooks hc' hints default resolve (.error e)).on s₁ =
        (.ok (.failed default e), s₂) := by
    obtain ⟨_, s₂, hrun⟩ := runError_returns h hc' e hints _
    exact ⟨s₂, fun resolve =>
      (Eval.on_bind_ok (Eval.on_report ..)).trans (Eval.on_bind_ok hrun)⟩
  obtain ⟨s₂, hsettle⟩ := hsettle
  obtain ⟨_, s', hend⟩ := runAtEnd_returns h hc'
    ((Resolution.failed default e).toJson.of hc'.flag) hints s₂
  refine ⟨s', fun resolve => ?_⟩
  rw [evaluate, Eval.on_bind_ok hbefore, Eval.on_bind_ok (hsettle resolve), Eval.on_bind_ok hend]
  rfl

/-- Otherwise one answer is asked for, in the context that the hooks made. -/
theorem evaluate_settled (hbefore : (runBefore hints hooks hc).on s = (.ok (hc', .ok ()), s₁))
    (resolve : Context → Eval (Resolution t.Value)) :
    (evaluate hooks hc hints default resolve).on s =
      (resolve hc'.context >>= conclude hooks hc' hints default).on s₁ := by
  have hsettle : settle hooks hc' hints default resolve (.ok ()) =
      resolve hc'.context >>= review hooks hc' hints default :=
    bind_congr fun r => by unfold review; cases r.error <;> rfl
  rw [evaluate, Eval.on_bind_ok hbefore]
  dsimp only
  rw [hsettle, bind_assoc]
  rfl

/-- An answer with an error is the result. -/
theorem conclude_refused (h : ∀ hook ∈ hooks, hook.Observing) (hc : HookContext) (hints : Hints)
    (default : t.Value) {r : Resolution t.Value} {e : EvaluationError} (herror : r.error = some e)
    (s : Store) :
    ∃ s', (conclude hooks hc hints default r).on s = (.ok r, s') := by
  obtain ⟨_, s₁, hrun⟩ := runError_returns h hc e hints s
  have hreview : (review hooks hc hints default r).on s = (.ok r, s₁) := by
    rw [review, herror]
    exact Eval.on_bind_ok hrun
  obtain ⟨_, s₂, hend⟩ := runAtEnd_returns h hc (r.toJson.of hc.flag) hints s₁
  exact ⟨s₂, (Eval.on_bind_ok hreview).trans (Eval.on_bind_ok hend)⟩

/-- Any other answer is judged by the hooks. -/
theorem conclude_judged (h : ∀ hook ∈ hooks, hook.Observing) (hc : HookContext) (hints : Hints)
    (default : t.Value) {r : Resolution t.Value} (hr : r.error = none) (s : Store) :
    ((conclude hooks hc hints default r).on s).1 =
      ((runAfter hc (r.toJson.of hc.flag) hints hooks.reverse).on s).1.map (judged default r) := by
  rw [conclude, Eval.Returns.outcome_bind fun r => runAtEnd_returns h hc _ hints, review, hr]
  dsimp only
  rcases hafter : (runAfter hc (r.toJson.of hc.flag) hints hooks.reverse).on s
    with ⟨e | e | _, s₁⟩
  · rw [Eval.on_bind_error hafter]
    rfl
  · obtain ⟨_, s₂, hrun⟩ := runError_returns h hc e hints _
    rw [Eval.on_bind_ok hafter, Eval.on_bind_ok (Eval.on_report ..), Eval.on_bind_ok hrun]
    rfl
  · rw [Eval.on_bind_ok hafter]
    rfl

end Lifecycle

end FeatureFlags
