import FeatureFlags.Hook.Validator
import FeatureFlags.Memory.Provider
import FeatureFlags.Proofs.Isolation.Alike
import FeatureFlags.Proofs.Isolation.Captures

/-!
# Isolation of one provider

A client over a provider runs the hooks of both in one lifecycle; over the isolated provider there
are two, one inside the other. Where the provider serves, and the client's own hooks judge answers
by their details, nobody can tell the difference: both give the same details, and the provider is
asked for the same answer or not at all. The two runs are followed side by side (`Together`).
-/
namespace FeatureFlags

variable {α β : Type} {t : FlagType} {flag : String} {default : t.Value}
  {R : Store → Store → Prop} {owner : Nat} {s s' : Store} {p : Provider}

/-- The provider with other answers. -/
def Provider.answering (p : Provider)
    (answer : (t : FlagType) → String → t.Value → Context → Eval (Resolution t.Value)) :
    Provider := { p with resolve := answer }

/-- What a run asks a provider for: nothing, and then other answers make no difference; or a flag in
one context, and then other answers make a difference only there, and a crash there is a crash. -/
def Asks (run : Provider → Eval α) (p : Provider) (flag : String) (default : t.Value) (s : Store) :
    Option Context → Prop
  | none => ∀ answer, (run (p.answering answer)).on s = (run p).on s
  | some c =>
    (∀ answer, answer t flag default c = p.resolve t flag default c →
      (run (p.answering answer)).on s = (run p).on s) ∧
    ∀ answer, answer t flag default c = Eval.crash →
      ((run (p.answering answer)).on s).1 = .error .crash

/-- Two runs that may ask a provider go together: both end before they ask, with the same outcome,
or both ask for the same answer, from stores that are alike, and make the same of it. -/
inductive Together (R : Store → Store → Prop) (p : Provider) (flag : String) (default : t.Value)
    (x y : Provider → Eval α) (s s' : Store) : Prop where
  | unasked (outcome : Except Crash α) {s₁ s₁' : Store}
    (left : ∀ answer, (x (p.answering answer)).on s = (outcome, s₁))
    (right : ∀ answer, (y (p.answering answer)).on s' = (outcome, s₁'))
  | asked (c : Context) {s₁ s₁' : Store} (f g : Resolution t.Value → Eval α)
    (left : ∀ answer, (x (p.answering answer)).on s = (answer t flag default c >>= f).on s₁)
    (right : ∀ answer, (y (p.answering answer)).on s' = (answer t flag default c >>= g).on s₁')
    (alike : R s₁ s₁')
    (ends : ∀ r s₂ s₂', R s₂ s₂' → ((f r).on s₂).1 = ((g r).on s₂').1)

namespace Together

variable {x y : Provider → Eval α}

theorem outcome (h : Together R p flag default x y s s')
    (hresolve : ∀ c, (p.resolve t flag default c).Respects R) :
    ((y p).on s').1 = ((x p).on s).1 := by
  cases h with
  | unasked outcome left right =>
    have hleft : (x p).on s = _ := left p.resolve
    have hright : (y p).on s' = _ := right p.resolve
    rw [hleft, hright]
  | asked c f g left right alike ends =>
    have hleft : (x p).on s = _ := left p.resolve
    have hright : (y p).on s' = _ := right p.resolve
    obtain ⟨answer, s₂, s₂', hrun, hrun', halike⟩ := (hresolve c).runs alike
    rw [hleft, hright]
    cases answer with
    | error e => rw [Eval.on_bind_error hrun, Eval.on_bind_error hrun']
    | ok r =>
      rw [Eval.on_bind_ok hrun, Eval.on_bind_ok hrun']
      exact (ends r s₂ s₂' halike).symm

theorem asks (h : Together R p flag default x y s s') :
    ∃ asked, Asks x p flag default s asked ∧ Asks y p flag default s' asked := by
  cases h with
  | unasked outcome left right =>
    exact ⟨none, fun answer => (left answer).trans (left p.resolve).symm,
      fun answer => (right answer).trans (right p.resolve).symm⟩
  | asked c f g left right =>
    have hasks {z : Provider → Eval α} {s s₁ : Store} {f : Resolution t.Value → Eval α}
        (hz : ∀ answer, (z (p.answering answer)).on s = (answer t flag default c >>= f).on s₁) :
        Asks z p flag default s (some c) := by
      constructor
      · intro answer hsame
        rw [hz answer, hsame]
        exact (hz p.resolve).symm
      · intro answer hcrash
        rw [hz answer, hcrash]
        rfl
    exact ⟨some c, hasks left, hasks right⟩

/-- Both runs go on in the same way. -/
theorem bind (h : Together R p flag default x y s s') {f : α → Eval β}
    (hf : ∀ a s s', ((f a).on s).1 = ((f a).on s').1) :
    Together R p flag default (fun q => x q >>= f) (fun q => y q >>= f) s s' := by
  cases h with
  | @unasked outcome s₁ s₁' left right =>
    cases outcome with
    | error e =>
      exact .unasked (.error e) (fun answer => Eval.on_bind_error (left answer))
        fun answer => Eval.on_bind_error (right answer)
    | ok a =>
      have hright (answer) :
          (y (p.answering answer) >>= f).on s' = (((f a).on s₁).1, ((f a).on s₁').2) := by
        rw [Eval.on_bind_ok (right answer), hf a s₁ s₁']
      exact .unasked ((f a).on s₁).1 (fun answer => Eval.on_bind_ok (left answer)) hright
  | asked c k k' left right alike ends =>
    refine .asked c (fun r => k r >>= f) (fun r => k' r >>= f) (fun answer => ?_)
      (fun answer => ?_) alike fun r s₂ s₂' halike => ?_
    · rw [Eval.on_bind, left answer, ← Eval.on_bind, bind_assoc]
    · rw [Eval.on_bind, right answer, ← Eval.on_bind, bind_assoc]
    · have hends := ends r s₂ s₂' halike
      rcases hrun : (k r).on s₂ with ⟨outcome, s₃⟩
      rcases hrun' : (k' r).on s₂' with ⟨outcome', s₃'⟩
      obtain rfl : outcome = outcome' := by rwa [hrun, hrun'] at hends
      cases outcome with
      | error e => rw [Eval.on_bind_error hrun, Eval.on_bind_error hrun']
      | ok a =>
        rw [Eval.on_bind_ok hrun, Eval.on_bind_ok hrun']
        exact hf a s₃ s₃'

end Together

/-! ## Two lifecycles for one -/

namespace Lifecycle

variable {outer inner : List Hook} {i : Isolator} {hc hc' : HookContext} {hints : Hints}

/-- An answer that passes the inner hooks and then the outer ones becomes what it becomes with all
of them in one lifecycle. -/
theorem conclude_nested (hinner : ∀ hook ∈ inner, hook.Observing)
    (houter : ∀ hook ∈ outer, hook.Observing) (hi : i.hook.Observing)
    (hafter : ∀ hook ∈ inner, ∀ hc details hints, (hook.after hc details hints).Respects R)
    (hjudge : ∀ hook ∈ outer, hook.JudgesDetails) (hflag : hc'.flag = hc.flag)
    (r : Resolution t.Value) (halike : R s s') :
    ((conclude (outer ++ inner) hc hints default r).on s).1 =
      ((conclude inner hc hints default r >>=
        conclude (outer ++ [i.hook]) hc' hints default).on s').1 := by
  have hall : ∀ hook ∈ outer ++ inner, hook.Observing := fun hook hmem =>
    (List.mem_append.1 hmem).elim (houter hook) (hinner hook)
  have houtside : ∀ hook ∈ outer ++ [i.hook], hook.Observing := fun hook hmem =>
    (List.mem_append.1 hmem).elim (houter hook) fun h => List.mem_singleton.1 h ▸ hi
  cases herror : r.error with
  | some e =>
    obtain ⟨s₁, hflat⟩ := conclude_refused hall hc hints default herror s
    obtain ⟨s₁', hinside⟩ := conclude_refused hinner hc hints default herror s'
    obtain ⟨s₂', houtside⟩ := conclude_refused houtside hc' hints default herror s₁'
    rw [hflat, Eval.on_bind_ok hinside, houtside]
  | none =>
    have hrespects : (runAfter hc (r.toJson.of hc.flag) hints inner.reverse).Respects R :=
      runAfter_respects fun hook hmem => hafter hook (List.mem_reverse.1 hmem)
    obtain ⟨verdict, s₁, s₁', hrun, hrun', -⟩ := hrespects.runs halike
    have hinside := conclude_judged hinner hc hints default herror s'
    rw [hrun'] at hinside
    rcases hconclude : (conclude inner hc hints default r).on s' with ⟨outcome, s₂'⟩
    rw [hconclude] at hinside
    rw [conclude_judged hall hc hints default herror, List.reverse_append, runAfter_append]
    subst hinside
    rcases verdict with e | e | _
    · rw [Eval.on_bind_error hrun, Eval.on_bind_error hconclude]
      rfl
    · -- the error of an inner hook is an answer with an error for the outer ones
      have hfailed : (Resolution.failed default e).error = some e := rfl
      obtain ⟨s₃', houtside⟩ := conclude_refused houtside hc' hints default hfailed s₂'
      rw [Eval.on_bind_ok hrun, Eval.on_bind_ok hconclude, judged, houtside]
      rfl
    · rw [Eval.on_bind_ok hrun, Eval.on_bind_ok hconclude, judged,
        conclude_judged houtside hc' hints default herror, List.reverse_append,
        List.reverse_singleton, hflag]
      have hverdict := runAfter_judges (fun hook hmem => hjudge hook (List.mem_reverse.1 hmem))
        hc hc' (r.toJson.of hc.flag) hints s₁ s₂'
      exact congrArg (Except.map (judged default r)) hverdict

end Lifecycle

/-! ## Clients -/

namespace Isolator

theorem hook_observing (i : Isolator) : i.hook.Observing where
  onError _ _ _ := .pure ()
  atEnd _ _ _ := fun _ => ⟨(), _, rfl⟩

/-- The isolator captures for the thread that runs, behind the other hooks. -/
theorem on_runBefore_hook (i : Isolator) (hc : HookContext) (hints : Hints) (s : Store) :
    (Lifecycle.runBefore hints [i.hook] hc).on s = (.ok (hc, .ok ()), { s with
      captures := s.captures.set i.owner ((s.captures i.owner).set s.thread
        (some ⟨hc.flag, hc.type, ⟨hc.client, hints⟩⟩)) }) := rfl

/-- An isolated provider that is asked on the thread that captured. -/
theorem on_resolve_captured (i : Isolator) {captured : Captured}
    (h : s.captures i.owner s.thread = some ⟨flag, t, captured⟩) (c : Context) :
    (i.toProvider.resolve t flag default c).on s =
      (Lifecycle.evaluate i.hooks (i.hookContext (some captured) t flag default c) captured.hints
        default (i.provider.resolve t flag default)).on (i.released s) := by
  have htaken : i.holding s flag t = some captured := by
    rw [holding, h]
    simp [Option.filter]
  refine (Eval.on_bind_ok (i.on_take? flag t s)).trans ?_
  rw [htaken]
  rfl

end Isolator

namespace Client

/-- The client with another provider. -/
def through (client : Client) (p : Provider) : Client := { client with provider := p }

/-- What the foreign code of an evaluation has to be like. It cannot tell stores apart that are
alike, its observing stages come back, and the hooks of the client and of the call judge an answer
by its details. Where stores are alike the provider serves, and to ask for its status changes
nothing that could be told. -/
structure Isolable (owner : Nat) (R : Store → Store → Prop) (client : Client)
    (options : EvaluationOptions) : Prop extends Alike owner R where
  before : ∀ hook ∈ client.allHooks options, ∀ hc hints, (hook.before hc hints).Respects R
  observing : ∀ hook ∈ client.allHooks options, hook.Observing
  judging : ∀ hook ∈ client.hooks ++ options.hooks, hook.JudgesDetails
  after : ∀ hook ∈ client.provider.hooks, ∀ hc details hints,
    (hook.after hc details hints).Respects R
  resolve : ∀ (t : FlagType) flag (default : t.Value) c,
    (client.provider.resolve t flag default c).Respects R
  status : ∀ s, R s s → ∃ status s', client.provider.status.on s = (.ok status, s') ∧
    status ∈ [.ready, .stale, .error] ∧ R s s' ∧ s.Keeps (· = owner) s'

variable {client : Client} {options : EvaluationOptions}

/-- A provider that serves is asked. -/
theorem on_resolve (client : Client) {status : Status} {s₁ : Store}
    (hstatus : client.provider.status.on s = (.ok status, s₁))
    (hserves : status ∈ [.ready, .stale, .error]) (flag : String) (default : t.Value)
    (c : Context) :
    (client.resolve t flag default c).on s = (client.provider.resolve t flag default c).on s₁ := by
  rw [Client.resolve, Eval.on_bind_ok hstatus]
  simp only [List.mem_cons, List.not_mem_nil, or_false] at hserves
  rcases hserves with rfl | rfl | rfl <;> rfl

/-- An evaluation up to the report of its outcome. -/
def evaluate (client : Client) (options : EvaluationOptions) (flag : String) (default : t.Value)
    (context : Option Context) : Eval (Resolution t.Value) :=
  Lifecycle.evaluate (client.allHooks options) (client.hookContext flag default context)
    options.hints default (client.resolve t flag default)

/-- Behind the isolator's `before`, the isolated provider is asked in the context of its own hooks,
which are handed what they are handed otherwise. -/
theorem on_resolve_isolated (h : client.Isolable owner R options) (halike : R s s')
    {hc : HookContext} {context : Option Context} {c : Context}
    (hhc : hc = { client.hookContext flag default context with context := c }) (hints : Hints) :
    ∃ s₁ s₂, R s s₂ ∧
      (∀ q, (Lifecycle.runBefore hints [(Isolator.new owner q []).hook] hc).on s' =
        (.ok (hc, .ok ()), s₁)) ∧
      ∀ answer, ((client.through
          (Isolator.new owner (client.provider.answering answer) []).toProvider).resolve
          t flag default c).on s₁ =
        (Lifecycle.evaluate client.provider.hooks hc hints default (answer t flag default)).on
          s₂ := by
  let i := Isolator.new owner client.provider []
  let captured : Captured := ⟨client.name, hints⟩
  let slot := (s'.captures owner).set s'.thread (some ⟨flag, t, captured⟩)
  let s₁ : Store := { s' with captures := s'.captures.set owner slot }
  have halike₁ : R s s₁ := h.holds halike _
  obtain ⟨status, s₂, hstatus, hserves, hR, hkeeps⟩ :=
    h.status s₁ (h.trans (h.symm halike₁) halike₁)
  have hcaptured : s₂.captures owner s₂.thread = some ⟨flag, t, captured⟩ := by
    rw [hkeeps.1, hkeeps.2 owner rfl]
    simp [s₁, slot]
  refine ⟨s₁, i.released s₂, h.holds (h.trans halike₁ hR) _, fun q => ?_, fun answer => ?_⟩
  · rw [Isolator.on_runBefore_hook, hhc]
    rfl
  · let j := Isolator.new owner (client.provider.answering answer) []
    have hask : ((client.through j.toProvider).resolve t flag default c).on s₁ = _ :=
      (client.through j.toProvider).on_resolve hstatus hserves flag default c
    have hhooks : j.hooks = client.provider.hooks := List.append_nil _
    refine hask.trans ((j.on_resolve_captured hcaptured c).trans ?_)
    rw [hhooks, hhc]
    rfl

section Lifecycles

variable {context : Option Context} {hc : HookContext} {s₁ s₁' : Store}

theorem Isolable.observing_outside (h : client.Isolable owner R options) (i : Isolator) :
    ∀ hook ∈ client.hooks ++ options.hooks ++ [i.hook], hook.Observing := by
  intro hook hmem
  rcases List.mem_append.1 hmem with hmem | hmem
  · exact h.observing hook (List.mem_append_left _ hmem)
  · exact List.mem_singleton.1 hmem ▸ i.hook_observing

/-- Behind all `before` stages the provider is asked. -/
theorem on_evaluate_plain (h : client.Isolable owner R options)
    (hflat : (Lifecycle.runBefore options.hints (client.allHooks options)
      (client.hookContext flag default context)).on s = (.ok (hc, .ok ()), s₁))
    (hself : R s₁ s₁) : ∃ s₂, R s₁ s₂ ∧
      ∀ answer, ((client.through (client.provider.answering answer)).evaluate options flag default
          context).on s =
        (answer t flag default hc.context >>=
          Lifecycle.conclude (client.allHooks options) hc options.hints default).on s₂ := by
  obtain ⟨status, s₂, hstatus, hserves, hR, -⟩ := h.status s₁ hself
  refine ⟨s₂, hR, fun answer => ?_⟩
  have hask := (client.through (client.provider.answering answer)).on_resolve hstatus hserves
    flag default hc.context
  refine (Lifecycle.evaluate_settled hflat _).trans ?_
  rw [Eval.on_bind, hask, ← Eval.on_bind]
  rfl

/-- Behind the `before` stages of the client's own hooks the outer lifecycle asks the isolator,
which runs the inner one. -/
theorem on_evaluate_isolated (h : client.Isolable owner R options) (halike : R s₁ s₁') {c : Context}
    (hhc : hc = { client.hookContext flag default context with context := c })
    (hrun' : (Lifecycle.runBefore options.hints (client.hooks ++ options.hooks)
      (client.hookContext flag default context)).on s' = (.ok (hc, .ok ()), s₁')) :
    ∃ s₂', R s₁ s₂' ∧ ∀ answer,
      let isolated := Isolator.new owner (client.provider.answering answer) []
      ((client.through isolated.toProvider).evaluate options flag default context).on s' =
        (Lifecycle.evaluate client.provider.hooks hc options.hints default (answer t flag default)
          >>= Lifecycle.conclude (client.hooks ++ options.hooks ++
            [(Isolator.new owner client.provider []).hook]) hc options.hints default).on s₂' := by
  let i := Isolator.new owner client.provider []
  have hcontext : hc.context = c := congrArg HookContext.context hhc
  obtain ⟨s₂', s₃', halike', hcaptures, hinside⟩ := on_resolve_isolated h halike hhc options.hints
  have hnested := Lifecycle.on_runBefore_append_passed [i.hook] hrun'
  rw [hcaptures] at hnested
  refine ⟨s₃', halike', fun answer => (Lifecycle.evaluate_settled hnested _).trans ?_⟩
  rw [hcontext, Eval.on_bind, hinside answer, ← Eval.on_bind]

/-- The runs go together behind the `before` stages of the client's own hooks. -/
theorem together_of_passed (h : client.Isolable owner R options) (halike : R s₁ s₁')
    (hrun : (Lifecycle.runBefore options.hints (client.hooks ++ options.hooks)
      (client.hookContext flag default context)).on s = (.ok (hc, .ok ()), s₁))
    (hrun' : (Lifecycle.runBefore options.hints (client.hooks ++ options.hooks)
      (client.hookContext flag default context)).on s' = (.ok (hc, .ok ()), s₁')) :
    Together R client.provider flag default
      (fun p => (client.through p).evaluate options flag default context)
      (fun p => (client.through (Isolator.new owner p []).toProvider).evaluate options flag default
        context) s s' := by
  let i := Isolator.new owner client.provider []
  have hinner : ∀ hook ∈ client.provider.hooks, hook.Observing := fun hook hmem =>
    h.observing hook (List.mem_append_right _ hmem)
  have houter : ∀ hook ∈ client.hooks ++ options.hooks, hook.Observing := fun hook hmem =>
    h.observing hook (List.mem_append_left _ hmem)
  have hbefore : ∀ hook ∈ client.provider.hooks, ∀ hc hints, (hook.before hc hints).Respects R :=
    fun hook hmem => h.before hook (List.mem_append_right _ hmem)
  obtain ⟨c, hhc⟩ := Lifecycle.runBefore_context hrun
  obtain ⟨s₂', halike₂, hasked⟩ := on_evaluate_isolated h halike hhc hrun'
  have hflat := Lifecycle.on_runBefore_append_passed client.provider.hooks hrun
  -- in both arrangements the hooks of the provider come next
  obtain ⟨begun, s₂, s₃', hrun₂, hrun₂', halike₃⟩ :=
    (Lifecycle.runBefore_respects hbefore options.hints hc).runs halike₂
  rw [hrun₂] at hflat
  rcases begun with e | ⟨hcB, e | _⟩
  · have hcrash (answer) := (hasked answer).trans
      (Eval.on_bind_error (Lifecycle.evaluate_crashed hrun₂' _))
    exact .unasked (.error e) (fun _ => Lifecycle.evaluate_crashed hflat _) hcrash
  · obtain ⟨s₃, hstopped⟩ := Lifecycle.evaluate_stopped h.observing default hflat
    obtain ⟨s₄', hstopped'⟩ := Lifecycle.evaluate_stopped hinner default hrun₂'
    have herror : (Resolution.failed default e).error = some e := rfl
    obtain ⟨s₅', hrefused⟩ := Lifecycle.conclude_refused (h.observing_outside i) hc options.hints
      default herror s₄'
    have hfailed (answer) := (hasked answer).trans
      ((Eval.on_bind_ok (hstopped' _)).trans hrefused)
    exact .unasked (.ok (.failed default e)) (fun _ => hstopped _) hfailed
  · obtain ⟨d, hhcB⟩ := Lifecycle.runBefore_context hrun₂
    have hflagB : hc.flag = hcB.flag := (congrArg HookContext.flag hhcB).symm
    obtain ⟨s₃, hR, hleft⟩ := on_evaluate_plain h hflat (h.trans halike₃ (h.symm halike₃))
    have hright (answer) := (hasked answer).trans (by
      rw [Eval.on_bind, Lifecycle.evaluate_settled hrun₂', ← Eval.on_bind, bind_assoc])
    refine .asked hcB.context _ _ hleft hright (h.trans (h.symm hR) halike₃) ?_
    intro r s₄ s₅' halike₄
    exact Lifecycle.conclude_nested hinner houter i.hook_observing h.after h.judging hflagB r
      halike₄

theorem evaluate_together (h : client.Isolable owner R options) (halike : R s s')
    (context : Option Context) :
    Together R client.provider flag default
      (fun p => (client.through p).evaluate options flag default context)
      (fun p => (client.through (Isolator.new owner p []).toProvider).evaluate options flag default
        context) s s' := by
  let i := Isolator.new owner client.provider []
  have hbefore : ∀ hook ∈ client.hooks ++ options.hooks, ∀ hc hints,
      (hook.before hc hints).Respects R := fun hook hmem =>
    h.before hook (List.mem_append_left _ hmem)
  obtain ⟨begun, s₁, s₁', hrun, hrun', halike₁⟩ := (Lifecycle.runBefore_respects
    hbefore options.hints (client.hookContext flag default context)).runs halike
  rcases begun with e | ⟨hc, e | _⟩
  · have hflat := Lifecycle.on_runBefore_append_crashed client.provider.hooks hrun
    have hnested := Lifecycle.on_runBefore_append_crashed [i.hook] hrun'
    exact .unasked (.error e) (fun _ => Lifecycle.evaluate_crashed hflat _)
      fun _ => Lifecycle.evaluate_crashed hnested _
  · have hflat := Lifecycle.on_runBefore_append_failed client.provider.hooks hrun
    have hnested := Lifecycle.on_runBefore_append_failed [i.hook] hrun'
    obtain ⟨s₂, hstopped⟩ := Lifecycle.evaluate_stopped h.observing default hflat
    obtain ⟨s₂', hstopped'⟩ :=
      Lifecycle.evaluate_stopped (h.observing_outside i) default hnested
    exact .unasked (.ok (.failed default e)) (fun _ => hstopped _) fun _ => hstopped' _
  · exact together_of_passed h halike₁ hrun hrun'

end Lifecycles

/-- Over an isolated provider a client gives the same details as over the provider itself, and the
provider is asked for the same answer in both cases or in neither. -/
theorem isolated_details_eq (h : client.Isolable owner R options) (halike : R s s')
    (t : FlagType) (flag : String) (default : t.Value) (context : Option Context) :
    let plain (p : Provider) :=
      (client.through p).details t flag default context options
    let isolated (p : Provider) :=
      (client.through (Isolator.new owner p []).toProvider).details t flag default context options
    ((isolated client.provider).on s').1 = ((plain client.provider).on s).1 ∧
      ∃ asked, Asks plain client.provider flag default s asked ∧
        Asks isolated client.provider flag default s' asked := by
  intro plain isolated
  have hreport (r : Resolution t.Value) (s s' : Store) :
      ((reportOutcome flag r >>= fun _ => pure (r.of flag) : Eval _).on s).1 =
        ((reportOutcome flag r >>= fun _ => pure (r.of flag) : Eval _).on s').1 := by
    obtain ⟨s₁, hrun, -⟩ := on_reportOutcome flag r s
    obtain ⟨s₁', hrun', -⟩ := on_reportOutcome flag r s'
    rw [Eval.on_bind_ok hrun, Eval.on_bind_ok hrun']
    rfl
  have htogether : Together R client.provider flag default plain isolated s s' :=
    (evaluate_together h halike context).bind hreport
  exact ⟨htogether.outcome (h.resolve t flag default), htogether.asks⟩

end Client

/-- What a validator says follows from the details. -/
theorem Validator.hook_judgesDetails (v : Validator) : (Validator.hook v).JudgesDetails := by
  intro details hints hc hc' s s'
  unfold Validator.hook
  dsimp only
  cases v details with
  | ok _ => rfl
  | error reason => rfl

namespace Client

/-- A provider of flags from memory that puts every evaluation into a group. -/
def grouping : Provider := { Memory.provider 0 with
  hooks := [{ before := fun _ _ => return .ok (some ⟨none, .ofList [("group", .text "beta")]⟩) }] }

/-- A flag that is on in the group. -/
def groupFlag : MemoryFlag where
  defaultVariant := "off"
  variants := .ofList [("off", .bool false), ("on", .bool true)]
  enabled := true
  select := some fun c => if c.attribute? "group" = none then none else some "on"
  metadata := .empty

/-- The client accepts what is on, in the context that the provider's own hook made. -/
theorem isolated_details_eq_grouping :
    let client : Client := { provider := grouping, hooks := [Validator.hook (.oneOf [.bool true])] }
    let s := { Store.fresh 0 with flags := fun _ => Table.empty.insert "f" groupFlag }
    let details (p : Provider) := (client.through p).details .boolean "f" false none {}
    client.Isolable 0 (fun s s' => s.flags = s'.flags) {} ∧
      ((details grouping).on s).1 =
        .ok ⟨⟨true, some "on", some .targetingMatch, none, .empty⟩, "f"⟩ ∧
      ((details (Isolator.new 0 grouping []).toProvider).on s).1 = ((details grouping).on s).1 := by
  intro client s details
  have hisolable : client.Isolable 0 (fun s s' => s.flags = s'.flags) {} := by
    constructor
    case toAlike =>
      refine ⟨Eq.symm, Eq.trans, ?_, fun h _ => h⟩
      rintro s s₁ s' h ⟨records, rfl⟩
      exact h
    case before =>
      intro hook hmem hc hints s s' h
      rcases List.mem_cons.1 hmem with rfl | hmem
      · exact ⟨rfl, h⟩
      · rw [List.mem_singleton.1 hmem]
        exact ⟨rfl, h⟩
    case observing =>
      intro hook hmem
      rcases List.mem_cons.1 hmem with rfl | hmem
      · exact ⟨fun _ _ _ => .pure (), fun _ _ _ => .pure ()⟩
      · rw [List.mem_singleton.1 hmem]
        exact ⟨fun _ _ _ => .pure (), fun _ _ _ => .pure ()⟩
    case judging =>
      intro hook hmem
      rw [List.mem_singleton.1 hmem]
      exact Validator.hook_judgesDetails _
    case after =>
      intro hook hmem hc details hints s s' h
      rw [List.mem_singleton.1 hmem]
      exact ⟨rfl, h⟩
    case resolve =>
      intro t flag default c s s' h
      have houtcome : MemoryFlag.answerFrom (s.flags 0) flag t default c =
          MemoryFlag.answerFrom (s'.flags 0) flag t default c := by rw [h]
      exact ⟨congrArg Except.ok houtcome, h⟩
    case status =>
      exact fun s _ => ⟨.ready, s, rfl, List.mem_cons_self, rfl, rfl, fun _ _ => rfl⟩
  refine ⟨hisolable, ?_, ?_⟩
  · rfl
  · exact (isolated_details_eq hisolable rfl .boolean "f" false none).1

end Client

end FeatureFlags
