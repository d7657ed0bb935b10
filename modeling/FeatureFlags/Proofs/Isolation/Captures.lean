import FeatureFlags.Proofs.Multi.Turns
import FeatureFlags.Proofs.Runs

/-!
# What isolators hold during an evaluation

Around an evaluation the isolators among its hooks first hold what they captured, then are asked or
not, and in the end hold nothing. The foreign code of a composition comes in between and leaves what
isolators hold alone. Main statement: a lifecycle that starts with nothing held ends with nothing
held, whichever hook fails (`Exposed.evaluate`).
-/
namespace FeatureFlags

/-- The foreign code of a composition. -/
structure Parts where
  hooks : Hook → Prop
  backends : Provider → Prop
  observers : (String → List MemberAnswer → Eval Unit) → Prop

namespace Request

/-- A request to foreign code of a composition. -/
def Of (parts : Parts) : Request → Prop
  | before hook .. | after hook .. | error hook .. | atEnd hook .. => parts.hooks hook
  | resolve t ask _ =>
    ∃ p flag, ∃ default : t.Value, parts.backends p ∧ ask = p.resolve t flag default
  | status p => parts.backends p
  | mismatch observer .. => parts.observers observer

/-- A hook is handed these hints and the metadata of this client. -/
def Observes (who : Captured) : Request → Prop
  | before _ seen hints | after _ seen _ hints | error _ seen _ hints | atEnd _ seen _ hints =>
    seen.client = who.client ∧ hints = who.hints
  | resolve .. | status _ | mismatch .. => True

/-- Stages of hooks and statuses, which fail in their results only. -/
def Steady : Request → Prop
  | before .. | after .. | error .. | atEnd .. | status _ => True
  | resolve .. | mismatch .. => False

end Request

/-- The calls of an evaluation on behalf of someone. -/
def Among (parts : Parts) (who : Captured) (call : Call) : Prop :=
  call.request.Of parts ∧ call.request.Observes who

section Captures

variable (own : Nat → Prop)

/-- The thread that runs is the same again, and isolators hold what they held. -/
def Store.Keeps (s s' : Store) : Prop :=
  s'.thread = s.thread ∧ ∀ i, own i → s'.captures i = s.captures i

/-- On the home thread some isolators hold a capture, and nothing else is held. -/
def Holding (home : Nat) (owners : List Nat) (capture : Option Capture) (s : Store) : Prop :=
  s.thread = home ∧ ∀ i, own i → ∀ n,
    s.captures i n = if n = home ∧ i ∈ owners then capture else none

/-- Nothing is held but what some isolators may hold on the home thread. -/
def Loose (home : Nat) (owners : List Nat) (s : Store) : Prop :=
  s.thread = home ∧ ∀ i, own i → ∀ n, ¬(n = home ∧ i ∈ owners) → s.captures i n = none

/-- No isolator holds anything on any thread. -/
def Clean (home : Nat) (s : Store) : Prop :=
  s.thread = home ∧ ∀ i, own i → ∀ n, s.captures i n = none

/-- A condition on what isolators hold alone. -/
def Framed (P : Store → Prop) : Prop := ∀ s s', s.Keeps own s' → P s → P s'

/-- Foreign code does not come back into the composition: what isolators hold is what they held
before. Hooks may fail and backends may crash. An observer may evaluate flags, as long as nothing is
held behind it. -/
structure Outside (parts : Parts) : Prop where
  steady {q : Request} (hof : q.Of parts) (hsteady : q.Steady) (s : Store) :
    ∃ a s', q.perform.on s = (.ok a, s') ∧ s.Keeps own s'
  resolve {p : Provider} (hp : parts.backends p) (t : FlagType) (flag : String) (default : t.Value)
    (c : Context) (s : Store) : s.Keeps own ((p.resolve t flag default c).on s).2
  mismatch {observer : String → List MemberAnswer → Eval Unit} (hof : parts.observers observer)
    (flag : String) (answers : List MemberAnswer) {home : Nat} {s : Store} (h : Clean own home s) :
    Clean own home ((observer flag answers).on s).2

/-- Hooks of an evaluation: foreign ones, and isolators in this order. -/
inductive Exposed (parts : Parts) : List Hook → List Nat → Prop where
  | nil : Exposed parts [] []
  | foreign {hook : Hook} {hooks : List Hook} {owners : List Nat} (h : parts.hooks hook)
    (rest : Exposed parts hooks owners) : Exposed parts (hook :: hooks) owners
  | isolator {i : Isolator} {hooks : List Hook} {owners : List Nat} (h : own i.owner)
    (rest : Exposed parts hooks owners) : Exposed parts (i.hook :: hooks) (i.owner :: owners)

end Captures

variable {own : Nat → Prop} {parts : Parts} {home : Nat} {owners : List Nat}
  {capture : Option Capture} {s s' : Store}

theorem holding_nil_iff : Holding own home [] capture s ↔ Clean own home s := by
  simp [Holding, Clean]

theorem holding_none_iff : Holding own home owners none s ↔ Clean own home s := by
  simp [Holding, Clean]

theorem loose_nil_iff : Loose own home [] s ↔ Clean own home s := by
  simp [Loose, Clean]

theorem Clean.loose (h : Clean own home s) : Loose own home owners s :=
  ⟨h.1, fun i hi n _ => h.2 i hi n⟩

theorem Holding.loose (h : Holding own home owners capture s) : Loose own home owners s :=
  ⟨h.1, fun i hi n hn => (h.2 i hi n).trans (if_neg hn)⟩

/-- What an evaluation by a provider leaves is loose in either case. -/
theorem Holding.loose_or_clean (h : Holding own home owners capture s ∨ Clean own home s) :
    Loose own home owners s := h.elim Holding.loose Clean.loose

theorem Loose.mono {more : List Nat} (h : Loose own home owners s) (sub : owners ⊆ more) :
    Loose own home more s :=
  ⟨h.1, fun i hi n hn => h.2 i hi n fun hin => hn ⟨hin.1, sub hin.2⟩⟩

theorem framed_holding : Framed own (Holding own home owners capture) := fun _ _ hkeeps h =>
  ⟨hkeeps.1.trans h.1, fun i hi n => (congrFun (hkeeps.2 i hi) n).trans (h.2 i hi n)⟩

theorem framed_loose : Framed own (Loose own home owners) := fun _ _ hkeeps h =>
  ⟨hkeeps.1.trans h.1, fun i hi n hn => (congrFun (hkeeps.2 i hi) n).trans (h.2 i hi n hn)⟩

theorem framed_clean : Framed own (Clean own home) := fun _ _ hkeeps h =>
  ⟨hkeeps.1.trans h.1, fun i hi n => (congrFun (hkeeps.2 i hi) n).trans (h.2 i hi n)⟩

theorem Framed.or {P Q : Store → Prop} (hP : Framed own P) (hQ : Framed own Q) :
    Framed own fun s => P s ∨ Q s := fun s s' hkeeps h => h.imp (hP s s' hkeeps) (hQ s s' hkeeps)

/-- What the library does apart from isolators. -/
theorem Framed.runs {α : Type} {P : Store → Prop} (hP : Framed own P) {x : Eval α}
    {allowed : Call → Prop} {E : Store → Prop}
    (h : ∀ s, ∃ a s₁, x.on s = (.ok a, s₁) ∧ s.Internal s₁ ∧ s.Keeps own s₁) :
    Runs allowed P x (fun _ => P) E := by
  refine Runs.internal fun s hs => ?_
  obtain ⟨a, s₁, hrun, hown, hkeeps⟩ := h s
  exact ⟨a, s₁, hrun, hown, hP s s₁ hkeeps hs⟩

theorem Framed.report {P : Store → Prop} (hP : Framed own P) {allowed : Call → Prop}
    {E : Store → Prop} (severity : Severity) (message : String) (fields : List (String × Json)) :
    Runs allowed P (Eval.report severity message fields) (fun _ => P) E :=
  hP.runs fun s =>
    ⟨_, _, rfl, (Store.logged_report severity message fields s).internal, rfl, fun _ _ => rfl⟩

theorem Holding.congr {more : List Nat} (h : Holding own home owners capture s)
    (same : ∀ i, i ∈ owners ↔ i ∈ more) : Holding own home more capture s :=
  ⟨h.1, fun i hi n => by simpa only [same] using h.2 i hi n⟩

/-! ## Isolators as hooks -/

namespace Isolator

theorem set_captures (i : Isolator) (capture : Option Capture) (s : Store) (owner n : Nat) :
    s.captures.set i.owner ((s.captures i.owner).set s.thread capture) owner n =
      if n = s.thread ∧ owner = i.owner then capture else s.captures owner n := by
  by_cases howner : owner = i.owner
  · subst howner
    by_cases hn : n = s.thread <;> simp [hn]
  · simp [howner]

/-- An isolator that captures joins those that hold the capture. -/
theorem before_runs (i : Isolator) (hc : HookContext) (hints : Hints) {allowed : Call → Prop}
    {E : Store → Prop} :
    let capture := some ⟨hc.flag, hc.type, ⟨hc.client, hints⟩⟩
    Runs allowed (Holding own home owners capture) (i.hook.before hc hints)
      (fun r s => r = .ok none ∧ Holding own home (i.owner :: owners) capture s) E := by
  refine Runs.internal fun s hs => ⟨_, _, rfl, rfl, rfl, hs.1, fun owner howner n => ?_⟩
  refine (i.set_captures _ s owner n).trans ?_
  rw [hs.1, hs.2 owner howner n]
  by_cases hn : n = home <;> by_cases ho : owner = i.owner <;> simp [hn, ho]

theorem released_loose {i : Isolator} (h : Loose own home (i.owner :: owners) s) :
    Loose own home owners (i.released s) := by
  refine ⟨h.1, fun owner howner n hn => (i.set_captures none s owner n).trans ?_⟩
  split
  · rfl
  next hother =>
    refine h.2 owner howner n fun hin => ?_
    rcases List.mem_cons.1 hin.2 with heq | hmem
    · exact hother ⟨hin.1.trans h.1.symm, heq⟩
    · exact hn ⟨hin.1, hmem⟩

/-- An isolator that drops what it captured holds nothing. -/
theorem atEnd_runs (i : Isolator) (hc : HookContext) (details : Evaluation Json) (hints : Hints)
    {allowed : Call → Prop} {E : Store → Prop} :
    Runs allowed (Loose own home (i.owner :: owners)) (i.hook.atEnd hc details hints)
      (fun _ => Loose own home owners) E :=
  Runs.internal fun s hs => ⟨_, i.released s, rfl, i.released_internal s, released_loose hs⟩

/-- What is taken from an isolator that holds the capture of the evaluation. -/
theorem holding_eq {i : Isolator} (hown : own i.owner) (hmem : i.owner ∈ owners) {flag : String}
    {t : FlagType} {held : Option Captured}
    (h : Holding own home owners (held.map (Capture.mk flag t)) s) : i.holding s flag t = held := by
  rw [holding, h.1, h.2 i.owner hown home, if_pos ⟨rfl, hmem⟩]
  cases held with
  | none => rfl
  | some who => simp [Option.filter]

end Isolator

section Stages

variable {who : Captured} {P : Store → Prop} {E : Store → Prop}

theorem Outside.runs_steady (hout : Outside own parts) {q : Request} (hof : q.Of parts)
    (hsteady : q.Steady) (hwho : q.Observes who) (hP : Framed own P) :
    Runs (Among parts who) P q.perform (fun _ => P) E := by
  refine Runs.request q (fun _ => ⟨hof, hwho⟩) fun s hs => ?_
  obtain ⟨a, s', hrun, hkeeps⟩ := hout.steady hof hsteady s
  rw [hrun]
  exact hP s s' hkeeps hs

/-- What `before` hooks leave: the isolators hold the capture unless one of the hooks failed. -/
def Begun (own : Nat → Prop) (home : Nat) (owners : List Nat) (hc : HookContext) (hints : Hints)
    (r : HookContext × Except EvaluationError Unit) (s : Store) : Prop :=
  (∃ c, r.1 = { hc with context := c }) ∧ Loose own home owners s ∧
    (r.2 = .ok () → Holding own home owners (some ⟨hc.flag, hc.type, ⟨hc.client, hints⟩⟩) s)

theorem Begun.congr {more : List Nat} {hc : HookContext} {hints : Hints}
    {r : HookContext × Except EvaluationError Unit} (h : Begun own home owners hc hints r s)
    (same : ∀ i, i ∈ owners ↔ i ∈ more) : Begun own home more hc hints r s :=
  ⟨h.1, h.2.1.mono fun i => (same i).1, fun hok => (h.2.2 hok).congr same⟩

namespace Exposed

variable {hooks more : List Hook} {others : List Nat} {hints : Hints}

theorem append (h : Exposed own parts hooks owners) (h' : Exposed own parts more others) :
    Exposed own parts (hooks ++ more) (owners ++ others) := by
  induction h with
  | nil => exact h'
  | foreign hook _ ih => exact .foreign hook ih
  | isolator i _ ih => exact .isolator i ih

theorem of_foreign (h : ∀ hook ∈ hooks, parts.hooks hook) : Exposed own parts hooks [] := by
  induction hooks with
  | nil => exact .nil
  | cons hook rest ih =>
    exact .foreign (h hook List.mem_cons_self) (ih fun k hk => h k (List.mem_cons_of_mem hook hk))

theorem reverse (h : Exposed own parts hooks owners) :
    Exposed own parts hooks.reverse owners.reverse := by
  induction h with
  | nil => exact .nil
  | foreign hook _ ih =>
    have hall := ih.append (.foreign hook .nil)
    rwa [List.append_nil, ← List.reverse_cons] at hall
  | isolator i _ ih =>
    rw [List.reverse_cons, List.reverse_cons]
    exact ih.append (.isolator i .nil)

theorem runBefore (h : Exposed own parts hooks owners) (hout : Outside own parts)
    (hc : HookContext) (done : List Nat) :
    Runs (Among parts ⟨hc.client, hints⟩)
      (Holding own home done (some ⟨hc.flag, hc.type, ⟨hc.client, hints⟩⟩))
      (Lifecycle.runBefore hints hooks hc) (Begun own home (owners ++ done) hc hints) E := by
  induction h generalizing hc done with
  | nil => exact Runs.pure _ fun s hs => ⟨⟨_, rfl⟩, hs.loose, fun _ => hs⟩
  | @foreign hook rest owners hof _ ih =>
    refine Runs.bind (hout.runs_steady (q := .before hook hc hints) hof trivial ⟨rfl, rfl⟩
      framed_holding) fun answer => ?_
    rcases answer with e | _ | c
    · exact Runs.pure _ fun s hs =>
        ⟨⟨_, rfl⟩, hs.loose.mono (List.subset_append_right _ _), nofun⟩
    · exact ih hc done
    · exact ih { hc with context := Context.merge [hc.context, c] } done
  | @isolator i rest owners hi _ ih =>
    refine Runs.bind (i.before_runs hc hints) fun answer => Runs.known fun hanswer => ?_
    subst hanswer
    exact (ih hc (i.owner :: done)).post fun _ _ hbegun =>
      hbegun.congr fun _ => List.perm_middle.mem_iff

/-- A hook of an evaluation is foreign or an isolator. -/
theorem cases_of_mem (h : Exposed own parts hooks owners) {hook : Hook} (hmem : hook ∈ hooks) :
    parts.hooks hook ∨ ∃ i : Isolator, hook = i.hook := by
  induction h with
  | nil => cases hmem
  | foreign hof _ ih =>
    rcases List.mem_cons.1 hmem with rfl | hmem
    · exact .inl hof
    · exact ih hmem
  | @isolator i _ _ _ _ ih =>
    rcases List.mem_cons.1 hmem with rfl | hmem
    · exact .inr ⟨i, rfl⟩
    · exact ih hmem

theorem runAfter (h : ∀ hook ∈ hooks, parts.hooks hook ∨ ∃ i : Isolator, hook = i.hook)
    (hout : Outside own parts) (hP : Framed own P) (hc : HookContext) (details : Evaluation Json) :
    Runs (Among parts ⟨hc.client, hints⟩) P (Lifecycle.runAfter hc details hints hooks)
      (fun _ => P) E := by
  induction hooks with
  | nil => exact Runs.done _
  | cons hook rest ih =>
    have hrest := ih fun k hk => h k (List.mem_cons_of_mem hook hk)
    have hcall : Runs (Among parts ⟨hc.client, hints⟩) P (hook.after hc details hints)
        (fun _ => P) E := by
      rcases h hook List.mem_cons_self with hof | ⟨i, rfl⟩
      · exact hout.runs_steady (q := .after hook hc details hints) hof trivial ⟨rfl, rfl⟩ hP
      · exact Runs.done _
    refine Runs.bind hcall fun answer => ?_
    rcases answer with e | _
    · exact Runs.done _
    · exact hrest

theorem runError (h : Exposed own parts hooks owners) (hout : Outside own parts)
    (hP : Framed own P) (hc : HookContext) (e : EvaluationError) :
    Runs (Among parts ⟨hc.client, hints⟩) P (Lifecycle.runError hooks hc e hints)
      (fun _ => P) E := by
  refine Runs.forM fun hook hmem => ?_
  rcases h.cases_of_mem (List.mem_reverse.1 hmem) with hof | ⟨i, rfl⟩
  · exact hout.runs_steady (q := .error hook hc e hints) hof trivial ⟨rfl, rfl⟩ hP
  · exact Runs.done _

/-- In the end every isolator among the hooks drops what it holds. -/
theorem atEnd_each (h : Exposed own parts hooks owners) (hout : Outside own parts)
    (hc : HookContext) (details : Evaluation Json) :
    Runs (Among parts ⟨hc.client, hints⟩) (Loose own home owners)
      (hooks.forM fun hook => hook.atEnd hc details hints) (fun _ => Clean own home) E := by
  induction h with
  | nil => exact Runs.pure _ fun _ hs => loose_nil_iff.1 hs
  | @foreign hook rest owners hof _ ih =>
    exact Runs.bind (hout.runs_steady (q := .atEnd hook hc details hints) hof trivial ⟨rfl, rfl⟩
      framed_loose) fun _ => ih
  | @isolator i rest owners hi _ ih =>
    exact Runs.bind (i.atEnd_runs hc details hints) fun _ => ih

theorem runAtEnd (h : Exposed own parts hooks owners) (hout : Outside own parts)
    (hc : HookContext) (details : Evaluation Json) :
    Runs (Among parts ⟨hc.client, hints⟩) (Loose own home owners)
      (Lifecycle.runAtEnd hooks hc details hints) (fun _ => Clean own home) E :=
  (h.reverse.atEnd_each hout hc details).pre fun _ hs =>
    hs.mono fun _ hi => List.mem_reverse.2 hi

theorem settle {t : FlagType} {default : t.Value} {resolve : Context → Eval (Resolution t.Value)}
    (h : Exposed own parts hooks owners) (hout : Outside own parts) (hc : HookContext)
    (hresolve : Runs (Among parts ⟨hc.client, hints⟩)
      (Holding own home owners (some ⟨hc.flag, hc.type, ⟨hc.client, hints⟩⟩))
      (resolve hc.context) (fun _ => Loose own home owners) (Clean own home))
    (started : Except EvaluationError Unit) :
    Runs (Among parts ⟨hc.client, hints⟩)
      (fun s => Loose own home owners s ∧ (started = .ok () →
        Holding own home owners (some ⟨hc.flag, hc.type, ⟨hc.client, hints⟩⟩) s))
      (Lifecycle.settle hooks hc hints default resolve started)
      (fun _ => Loose own home owners) (Clean own home) := by
  have herror (e : EvaluationError) (r : Resolution t.Value) :
      Runs (Among parts ⟨hc.client, hints⟩) (Loose own home owners)
        (do Lifecycle.runError hooks hc e hints; return r) (fun _ => Loose own home owners)
        (Clean own home) :=
    (h.runError hout framed_loose hc e).bind fun _ => Runs.done r
  rcases started with e | _
  · refine Runs.bind ?_ fun _ => herror e (.failed default e)
    exact (framed_loose.report _ _ _).pre fun _ hs => hs.1
  · refine Runs.bind (hresolve.pre fun _ hs => hs.2 rfl) fun r => ?_
    rcases r.error with _ | e
    · have hhooks : ∀ hook ∈ hooks.reverse, parts.hooks hook ∨ ∃ i : Isolator, hook = i.hook :=
        fun _ hmem => h.cases_of_mem (List.mem_reverse.1 hmem)
      refine Runs.bind (runAfter hhooks hout framed_loose hc _) fun verdict => ?_
      rcases verdict with e | _
      · exact (framed_loose.report _ _ _).bind fun _ => herror e (.failed default e)
      · exact Runs.done r
    · exact herror e r

/-- Whatever hooks and the evaluation do, nothing is held in the end, and all that is asked is asked
on behalf of the evaluation. -/
theorem evaluate {t : FlagType} {default : t.Value} {resolve : Context → Eval (Resolution t.Value)}
    (h : Exposed own parts hooks owners) (hout : Outside own parts) (hc : HookContext)
    (hresolve : ∀ c, Runs (Among parts ⟨hc.client, hints⟩)
      (Holding own home owners (some ⟨hc.flag, hc.type, ⟨hc.client, hints⟩⟩))
      (resolve c) (fun _ => Loose own home owners) (Clean own home)) :
    Runs (Among parts ⟨hc.client, hints⟩) (Clean own home)
      (Lifecycle.evaluate hooks hc hints default resolve) (fun _ => Clean own home)
      (Clean own home) := by
  have hbefore : Runs (Among parts ⟨hc.client, hints⟩) (Clean own home)
      (Lifecycle.runBefore hints hooks hc) (Begun own home owners hc hints) (Clean own home) := by
    have hbegun (r) (s : Store) (hs : Begun own home (owners ++ []) hc hints r s) :
        Begun own home owners hc hints r s := by rwa [List.append_nil] at hs
    exact ((h.runBefore hout hc []).pre fun _ => holding_nil_iff.2).post hbegun
  refine Runs.bind hbefore fun begun => Runs.known ?_
  obtain ⟨seen, started⟩ := begun
  rintro ⟨c, rfl⟩
  refine Runs.bind (h.settle hout { hc with context := c } (hresolve c) started) fun r => ?_
  exact (h.runAtEnd hout { hc with context := c } _).bind fun _ => Runs.done r

end Exposed

end Stages

end FeatureFlags
