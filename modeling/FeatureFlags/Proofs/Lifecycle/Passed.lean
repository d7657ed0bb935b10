import FeatureFlags.Hook.Lifecycle
import FeatureFlags.Isolation.Isolator
import FeatureFlags.Proofs.Histories

/-!
# Who let an answer pass

The hooks around an evaluation keep an invariant, and so does the resolving function. Then the
evaluation keeps it too, and its result is the default with an error, or the answer of the resolving
function, which every hook let pass if it is without an error.
-/
namespace FeatureFlags

/-- The hook of a stage. -/
def Request.hook? : Request → Option Hook
  | before hook .. | after hook .. | error hook .. | atEnd hook .. => some hook
  | resolve .. | status _ | mismatch .. => none

namespace Hook

/-- Every stage of a hook keeps an invariant. -/
def Keeps (I : List Call → Store → Prop) (hook : Hook) : Prop :=
  ∀ q : Request, q.hook? = some hook → q.Keeps I

/-- In the run a hook was shown a value of a flag behind an evaluation, and let it pass. -/
def Passed (hook : Hook) (flag : String) (value : Json) (run : List Call) : Prop :=
  ∃ (seen : HookContext) (details : Evaluation Json) (hints : Hints),
    ⟨.after hook seen details hints, .ok (.ok ())⟩ ∈ run ∧ details.flag = flag ∧
    details.value = value ∧ (Request.after hook seen details hints).Allows (.ok ())

theorem Passed.of_subset {hook : Hook} {flag : String} {value : Json} {run run' : List Call}
    (h : hook.Passed flag value run) (sub : run ⊆ run') : hook.Passed flag value run' := by
  obtain ⟨seen, details, hints, hmem, hdetails⟩ := h
  exact ⟨seen, details, hints, sub hmem, hdetails⟩

end Hook

/-- What an isolator does among the hooks of an evaluation is no matter of caches. -/
theorem Isolator.hook_keeps {I : List Call → Store → Prop} (hI : Lasting I) (i : Isolator) :
    i.hook.Keeps I := by
  intro q hq
  refine Request.keeps_of_forgets hI fun s => ?_
  cases q with
  | before | after | error | atEnd =>
    cases hq
    exact fun _ _ _ h => h
  | resolve | status | mismatch => cases hq

namespace Lifecycle

variable {I : List Call → Store → Prop} {F : List Call → Prop} {hooks : List Hook}
  {t : FlagType} {default : t.Value} {resolve : Context → Eval (Resolution t.Value)}
  {A : Resolution t.Value → List Call → Prop}

/-- The result of an evaluation: the default with an error, or an answer, which all hooks let pass
if it is without an error. -/
def Outcome (hooks : List Hook) (flag : String) (default : t.Value)
    (A : Resolution t.Value → List Call → Prop) (r : Resolution t.Value)
    (past : List Call) : Prop :=
  (∃ e, r = .failed default e) ∨
    A r past ∧ (r.error = none → ∀ hook ∈ hooks, hook.Passed flag (t.toJson r.value) past)

theorem grows_outcome (hA : ∀ r, Grows (A r)) (flag : String) (r : Resolution t.Value) :
    Grows (Outcome hooks flag default A r) := by
  rintro past more (hfailed | ⟨hr, hpassed⟩)
  · exact .inl hfailed
  · have sub : past ⊆ past ++ more := List.subset_append_left past more
    exact .inr ⟨hA r past more hr, fun hvalid hook hmem => (hpassed hvalid hook hmem).of_subset sub⟩

theorem runBefore_yields (hhooks : ∀ hook ∈ hooks, hook.Keeps I) (hc : HookContext)
    (hints : Hints) :
    Yields I F (runBefore hints hooks hc) fun r _ => r.1.flag = hc.flag := by
  induction hooks generalizing hc F with
  | nil => exact Yields.pure _ fun _ _ => rfl
  | cons hook rest ih =>
    have hrest := fun k hk => hhooks k (List.mem_cons_of_mem hook hk)
    have hcall := hhooks hook List.mem_cons_self (.before hook hc hints) rfl
    refine (Yields.request _ hcall).bind fun answer => ?_
    rcases answer with e | _ | more
    · exact Yields.pure _ fun _ _ => rfl
    · exact ih hrest hc
    · exact ih hrest { hc with context := Context.merge [hc.context, more] }

theorem runAfter_yields (hhooks : ∀ hook ∈ hooks, hook.Keeps I) (hc : HookContext)
    (details : Evaluation Json) (hints : Hints) :
    Yields I F (runAfter hc details hints hooks) fun verdict past => verdict = .ok () →
      ∀ hook ∈ hooks, hook.Passed details.flag details.value past := by
  induction hooks generalizing F with
  | nil => exact Yields.pure _ fun _ _ _ _ h => absurd h List.not_mem_nil
  | cons hook rest ih =>
    have hrest := fun k hk => hhooks k (List.mem_cons_of_mem hook hk)
    have hcall := hhooks hook List.mem_cons_self (.after hook hc details hints) rfl
    refine (Yields.request _ hcall).bind fun answer => ?_
    rcases answer with e | _
    · exact Yields.pure _ fun _ _ h => nomatch h
    · have hmade : Grows fun past => ⟨Request.after hook hc details hints, .ok (.ok ())⟩ ∈ past ∧
          (Request.after hook hc details hints).Allows (.ok ()) :=
        (grows_mem _).and fun _ _ h => h
      refine ((ih hrest).frame hmade).post ?_
      rintro verdict past ⟨hpassed, hmem, hallows⟩ hverdict k hk
      rcases List.mem_cons.1 hk with rfl | hk
      · exact ⟨hc, details, hints, hmem, rfl, rfl, hallows⟩
      · exact hpassed hverdict k hk

theorem runError_yields (hhooks : ∀ hook ∈ hooks, hook.Keeps I) (hc : HookContext)
    (e : EvaluationError) (hints : Hints) :
    Yields I F (runError hooks hc e hints) fun _ _ => True := by
  refine Yields.forM fun hook hmem => ?_
  have hcall := hhooks hook (List.mem_reverse.1 hmem) (.error hook hc e hints) rfl
  exact (Yields.request _ hcall).post fun _ _ _ => trivial

theorem runAtEnd_yields (hhooks : ∀ hook ∈ hooks, hook.Keeps I) (hc : HookContext)
    (details : Evaluation Json) (hints : Hints) :
    Yields I F (runAtEnd hooks hc details hints) fun _ _ => True := by
  refine Yields.forM fun hook hmem => ?_
  have hcall := hhooks hook (List.mem_reverse.1 hmem) (.atEnd hook hc details hints) rfl
  exact (Yields.request _ hcall).post fun _ _ _ => trivial

/-- A result that is told to hooks is still what it was. -/
theorem told_yields {x : Eval Unit} {r : Resolution t.Value} (hR : Grows F)
    (hx : Yields I (fun _ => True) x fun _ _ => True) :
    Yields I F (do x; return r) fun r' past => r' = r ∧ F past :=
  (hx.frame hR).bind fun _ => Yields.pure r fun _ h => ⟨rfl, h.2⟩

theorem settle_yields (hI : Lasting I) (hhooks : ∀ hook ∈ hooks, hook.Keeps I) (hc : HookContext)
    (hints : Hints) (hA : ∀ r, Grows (A r))
    (hresolve : Yields I (fun _ => True) (resolve hc.context) A)
    (started : Except EvaluationError Unit) :
    Yields I F (settle hooks hc hints default resolve started)
      (Outcome hooks hc.flag default A) := by
  have herror (e : EvaluationError) :
      Yields I (fun _ => True) (runError hooks hc e hints) fun _ _ => True :=
    runError_yields hhooks hc e hints
  have hfail (e : EvaluationError) {G : List Call → Prop} :
      Yields I G (do runError hooks hc e hints; return .failed default e)
        (Outcome hooks hc.flag default A) := by
    refine ((told_yields grows_true (herror e)).post ?_).pre fun _ _ => trivial
    rintro _ past ⟨rfl, -⟩
    exact .inl ⟨e, rfl⟩
  rcases started with e | _
  · exact (Yields.report hI _ _ _).bind fun _ => hfail e
  · refine (hresolve.pre fun _ _ => trivial).bind fun r => ?_
    rcases hr : r.error with _ | e
    · have hreview := (runAfter_yields (fun hook h => hhooks hook (List.mem_reverse.1 h)) hc
        (r.toJson.of hc.flag) hints).frame (hA r)
      refine hreview.bind fun verdict => ?_
      rcases verdict with e | _
      · exact (Yields.report hI _ _ _).bind fun _ => hfail e
      · refine Yields.pure r fun past h => .inr ⟨h.2, fun _ hook hmem => ?_⟩
        exact h.1 rfl hook (List.mem_reverse.2 hmem)
    · refine (told_yields (hA r) (herror e)).post ?_
      rintro _ past ⟨rfl, h⟩
      refine .inr ⟨h, fun hvalid => ?_⟩
      rw [hr] at hvalid
      cases hvalid

/-- An evaluation whose hooks and whose resolving function keep an invariant. -/
theorem evaluate_yields (hI : Lasting I) (hhooks : ∀ hook ∈ hooks, hook.Keeps I)
    (hc : HookContext) (hints : Hints) (hA : ∀ r, Grows (A r))
    (hresolve : ∀ c, Yields I (fun _ => True) (resolve c) A) :
    Yields I F (evaluate hooks hc hints default resolve) (Outcome hooks hc.flag default A) := by
  have hbefore : Yields I F (runBefore hints hooks hc) fun r _ => r.1.flag = hc.flag ∧ True :=
    (runBefore_yields hhooks hc hints).post fun _ _ hflag => ⟨hflag, trivial⟩
  refine hbefore.bind fun (seen, started) => Yields.known fun hflag => ?_
  have hsettle : Yields I (fun _ => True) (settle hooks seen hints default resolve started)
      (Outcome hooks hc.flag default A) := by
    rw [← hflag]
    exact settle_yields hI hhooks seen hints hA (hresolve seen.context) started
  refine hsettle.bind fun r => ?_
  refine (told_yields (grows_outcome hA hc.flag r) (runAtEnd_yields hhooks seen _ hints)).post ?_
  rintro _ past ⟨rfl, h⟩
  exact h

end Lifecycle

end FeatureFlags
