import FeatureFlags.Proofs.Context.Merging
import FeatureFlags.Proofs.Lifecycle.Course

/-!
# What the calls of an evaluation see

Along the course of an evaluation every call is handed the context that the hooks before it made of
the initial one, and the resolving function is asked when every hook has had its say.
-/
namespace FeatureFlags

/-- The context that a hook or the resolving function is handed. -/
def Request.context? : Request → Option Context
  | before _ seen _ | after _ seen _ _ | error _ seen _ _ | atEnd _ seen _ _ => some seen.context
  | resolve _ _ context => some context
  | status _ | mismatch .. => none

def Request.isResolve : Request → Bool
  | resolve .. => true
  | _ => false

namespace Call

/-- The context that a hook returned before an evaluation. -/
def returned? : Call → Option Context
  | ⟨.before .., .ok (.ok more)⟩ => more
  | _ => none

/-- The context of an evaluation behind a call. -/
def enrich (c : Context) (call : Call) : Context :=
  (call.returned?).elim c fun more => Context.merge [c, more]

/-- The context that calls make of one says the same as one merge of all that they returned. -/
theorem foldl_enrich_same (c : Context) (l : List Call) :
    (l.foldl enrich c).Same (Context.merge (c :: l.filterMap returned?)) := by
  have h : l.foldl enrich c =
      (l.filterMap returned?).foldl (fun c d => Context.merge [c, d]) c := by
    rw [List.foldl_filterMap]
    congr 1
    funext c call
    unfold enrich
    cases call.returned? <;> rfl
  rw [h]
  exact Context.foldl_merge_same c _

end Call

namespace Lifecycle

/-- Each call is handed what the calls before it made of a context. -/
def Sees : Context → List Call → Prop
  | _, [] => True
  | c, call :: rest => (∀ d ∈ call.request.context?, d = c) ∧ Sees (call.enrich c) rest

theorem sees_append {c : Context} {l₁ l₂ : List Call} :
    Sees c (l₁ ++ l₂) ↔ Sees c l₁ ∧ Sees (l₁.foldl Call.enrich c) l₂ := by
  induction l₁ generalizing c with
  | nil => simp [Sees]
  | cons call rest ih => simp [Sees, ih, and_assoc]

/-- What a call within a course is handed. -/
theorem Sees.context {c d : Context} {l₁ l₂ : List Call} {call : Call}
    (h : Sees c (l₁ ++ call :: l₂)) (hd : call.request.context? = some d) :
    d = l₁.foldl Call.enrich c :=
  (sees_append.1 h).2.1 d hd

/-- Calls that are handed one context, return none, and do not ask for an answer. -/
def Observe (c : Context) (l : List Call) : Prop :=
  ∀ call ∈ l, call.request.context? = some c ∧ call.returned? = none ∧
    call.request.isResolve = false

theorem Observe.append {c : Context} {l₁ l₂ : List Call} (h₁ : Observe c l₁) (h₂ : Observe c l₂) :
    Observe c (l₁ ++ l₂) := fun call hcall =>
  (List.mem_append.1 hcall).elim (h₁ call) (h₂ call)

theorem Observe.cons {c : Context} {call : Call} {l : List Call}
    (hcall : call.request.context? = some c ∧ call.returned? = none ∧
      call.request.isResolve = false) (h : Observe c l) : Observe c (call :: l) := by
  intro other hmem
  rcases List.mem_cons.1 hmem with rfl | hmem
  · exact hcall
  · exact h other hmem

theorem observe_map {c : Context} {f : Hook → Call} {hooks : List Hook}
    (h : ∀ hook, (f hook).request.context? = some c ∧ (f hook).returned? = none ∧
      (f hook).request.isResolve = false) : Observe c (hooks.map f) := by
  intro call hcall
  obtain ⟨hook, -, rfl⟩ := List.mem_map.1 hcall
  exact h hook

theorem Observe.sees {c : Context} {l : List Call} (h : Observe c l) : Sees c l := by
  induction l with
  | nil => trivial
  | cons call rest ih =>
    obtain ⟨hcontext, hreturned, -⟩ := h call List.mem_cons_self
    have he : call.enrich c = c := by simp [Call.enrich, hreturned]
    refine ⟨fun d hd => ?_, ?_⟩
    · rw [hcontext] at hd
      exact (Option.mem_some.1 hd).symm
    · rw [he]
      exact ih fun call hcall => h call (List.mem_cons_of_mem _ hcall)

theorem sees_begun (hints : Hints) (hc : HookContext) (passed : List (Hook × Option Context)) :
    Sees hc.context (begun hints hc passed) ∧
      (begun hints hc passed).foldl Call.enrich hc.context = (gathered hc passed).context := by
  induction passed generalizing hc with
  | nil => exact ⟨trivial, rfl⟩
  | cons p rest ih =>
    obtain ⟨hook, more⟩ := p
    have he : (hc.enrich more).context =
        Call.enrich hc.context ⟨.before hook hc hints, .ok (.ok more)⟩ := by
      cases more <;> rfl
    have hrest := ih (hc.enrich more)
    rw [he] at hrest
    exact ⟨⟨fun d hd => (Option.mem_some.1 hd).symm, hrest.1⟩, hrest.2⟩

theorem returned_begun (hints : Hints) (hc : HookContext)
    (passed : List (Hook × Option Context)) :
    (begun hints hc passed).filterMap Call.returned? = passed.filterMap (·.2) := by
  induction passed generalizing hc with
  | nil => rfl
  | cons p rest ih =>
    obtain ⟨hook, _ | more⟩ := p
    · exact ih hc
    · exact congrArg (more :: ·) (ih _)

theorem request_begun {hints : Hints} {hc : HookContext} {passed : List (Hook × Option Context)}
    {call : Call} (h : call ∈ begun hints hc passed) :
    ∃ hook ∈ passed.map (·.1), ∃ seen, call.request = .before hook seen hints := by
  induction passed generalizing hc with
  | nil => cases h
  | cons p rest ih =>
    rcases List.mem_cons.1 h with rfl | h
    · exact ⟨p.1, List.mem_cons_self, hc, rfl⟩
    · obtain ⟨hook, hmem, hseen⟩ := ih h
      exact ⟨hook, List.mem_cons_of_mem _ hmem, hseen⟩

theorem isResolve_begun {hints : Hints} {hc : HookContext} {passed : List (Hook × Option Context)}
    {call : Call} (h : call ∈ begun hints hc passed) : call.request.isResolve = false := by
  obtain ⟨hook, -, seen, hrequest⟩ := request_begun h
  rw [hrequest]
  rfl

section

variable {t : FlagType} {hooks : List Hook} {hc : HookContext} {hints : Hints} {default : t.Value}
  {resolve : Context → Eval (Resolution t.Value)} {l : List Call} {r : Resolution t.Value}

/-- An evaluation has one call behind the `before` stage and in front of all that only observe: the
resolving function is asked, if all hooks passed, or one hook fails. -/
theorem Course.shape (h : Course hooks hc hints default resolve l r) :
    ∃ (passed : List (Hook × Option Context)) (call : Call) (rest : List Call),
      l = begun hints hc passed ++ call :: rest ∧ passed.map (·.1) <+: hooks ∧
      call.request.context? = some (gathered hc passed).context ∧ call.returned? = none ∧
      Observe (gathered hc passed).context rest ∧
      (call.request.isResolve = false ∨ hooks = passed.map (·.1) ∧
        call.request = .resolve t resolve (gathered hc passed).context) := by
  cases h with
  | @stopped passed _ _ hs =>
    refine ⟨passed, _, _, rfl, ⟨_, hs.symm⟩, rfl, rfl, ?_, .inl rfl⟩
    exact (observe_map fun _ => ⟨rfl, rfl, rfl⟩).append (observe_map fun _ => ⟨rfl, rfl, rfl⟩)
  | @settled passed hs l r hl =>
    have hend : Observe (gathered hc passed).context (ended hooks (gathered hc passed) r hints) :=
      observe_map fun _ => ⟨rfl, rfl, rfl⟩
    have hprefix : passed.map (·.1) <+: hooks := hs ▸ List.prefix_rfl
    cases hl with
    | refused =>
      refine ⟨passed, _, _, List.append_assoc .., hprefix, rfl, rfl, ?_, .inr ⟨hs, rfl⟩⟩
      exact (observe_map fun _ => ⟨rfl, rfl, rfl⟩).append hend
    | rejected =>
      refine ⟨passed, _, _, List.append_assoc .., hprefix, rfl, rfl, ?_, .inr ⟨hs, rfl⟩⟩
      refine ((observe_map fun _ => ⟨rfl, rfl, rfl⟩).append (.cons ⟨rfl, rfl, rfl⟩ ?_)).append hend
      exact observe_map fun _ => ⟨rfl, rfl, rfl⟩
    | accepted =>
      refine ⟨passed, _, _, List.append_assoc .., hprefix, rfl, rfl, ?_, .inr ⟨hs, rfl⟩⟩
      exact (observe_map fun _ => ⟨rfl, rfl, rfl⟩).append hend

theorem Course.sees (h : Course hooks hc hints default resolve l r) : Sees hc.context l := by
  obtain ⟨passed, call, rest, rfl, -, hcontext, hreturned, hrest, -⟩ := h.shape
  obtain ⟨hbegun, hgathered⟩ := sees_begun hints hc passed
  refine sees_append.2 ⟨hbegun, ?_⟩
  rw [hgathered]
  refine ⟨fun d hd => ?_, ?_⟩
  · rw [hcontext] at hd
    exact (Option.mem_some.1 hd).symm
  · rw [Call.enrich, hreturned]
    exact hrest.sees

/-- A context is returned by a hook of the evaluation before it. -/
theorem Course.returned {call : Call} (h : Course hooks hc hints default resolve l r)
    (hcall : call ∈ l) (hreturned : call.returned? ≠ none) :
    ∃ hook ∈ hooks, ∃ seen, call.request = .before hook seen hints := by
  obtain ⟨passed, other, rest, rfl, hpassed, -, hother, hrest, -⟩ := h.shape
  rcases List.mem_append.1 hcall with hbegun | hcall
  · obtain ⟨hook, hmem, hseen⟩ := request_begun hbegun
    exact ⟨hook, hpassed.subset hmem, hseen⟩
  · rcases List.mem_cons.1 hcall with rfl | hcall
    · exact absurd hother hreturned
    · exact absurd (hrest call hcall).2.1 hreturned

/-- The resolving function is asked behind the `before` stage of all hooks, in what these made of
the context. -/
theorem Course.asked {l₁ l₂ : List Call} {call : Call}
    (h : Course hooks hc hints default resolve (l₁ ++ call :: l₂) r)
    (hcall : call.request.isResolve = true) :
    ∃ passed, hooks = passed.map (·.1) ∧ l₁ = begun hints hc passed ∧
      call.request = .resolve t resolve (gathered hc passed).context := by
  obtain ⟨passed, other, rest, hl, -, -, -, hrest, hother⟩ := h.shape
  have hfirst : call ∉ begun hints hc passed := fun hmem => by
    rw [isResolve_begun hmem] at hcall
    cases hcall
  have hlast : call ∉ rest := fun hmem => by
    rw [(hrest call hmem).2.2] at hcall
    cases hcall
  have hsame : l₁ = begun hints hc passed ∧ call = other := by
    rcases List.append_eq_append_iff.1 hl with ⟨a, hb, ha⟩ | ⟨a, hb, ha⟩
    · cases a with
      | nil => exact ⟨by simpa using hb.symm, (List.cons.inj ha).1⟩
      | cons x a =>
        obtain ⟨rfl, -⟩ := List.cons.inj ha
        exact absurd (hb ▸ List.mem_append_right _ List.mem_cons_self) hfirst
    · cases a with
      | nil => exact ⟨by simpa using hb, (List.cons.inj ha).1.symm⟩
      | cons x a =>
        obtain ⟨-, ha⟩ := List.cons.inj ha
        exact absurd (ha ▸ List.mem_append_right _ List.mem_cons_self) hlast
  obtain ⟨rfl, rfl⟩ := hsame
  rcases hother with hother | ⟨hhooks, hrequest⟩
  · rw [hother] at hcall
    cases hcall
  · exact ⟨passed, hhooks, rfl, hrequest⟩

end

end Lifecycle

/-- A call of a run that follows a course, also of one that crashes, has its place in a course. -/
theorem Ends.place {α : Type} {course : List Call → α → Prop} {l₁ l₂ : List Call} {call : Call}
    {o : Except Crash α} (h : Ends course (l₁ ++ call :: l₂) o) :
    ∃ call' l a, call'.request = call.request ∧ course (l₁ ++ call' :: l) a := by
  generalize hl : l₁ ++ call :: l₂ = l at h
  cases h with
  | @returned _ a h =>
    subst hl
    exact ⟨call, l₂, a, rfl, h⟩
  | @crashed l more q answer a h =>
    rcases List.eq_nil_or_concat l₂ with rfl | ⟨l₂', last, rfl⟩
    · obtain ⟨rfl, hq⟩ := List.append_inj' hl rfl
      obtain rfl := List.singleton_inj.1 hq
      exact ⟨⟨q, .ok answer⟩, more, a, rfl, h⟩
    · rw [List.concat_eq_append, ← List.cons_append, ← List.append_assoc] at hl
      obtain ⟨rfl, -⟩ := List.append_inj' hl rfl
      rw [List.append_assoc, List.cons_append] at h
      exact ⟨call, _, a, rfl, h⟩

/-- Of the calls of an evaluation one at most asks for an answer, and it asks the resolving
function. -/
theorem Ends.asks_once {t : FlagType} {hooks : List Hook} {hc : HookContext} {hints : Hints}
    {default : t.Value} {resolve : Context → Eval (Resolution t.Value)} {l₁ l₂ : List Call}
    {call : Call} {o : Except Crash (Resolution t.Value)}
    (h : Ends (Lifecycle.Course hooks hc hints default resolve) (l₁ ++ call :: l₂) o)
    (hcall : call.request.isResolve = true) :
    (∃ c, call.request = .resolve t resolve c) ∧
      ∀ other ∈ l₁ ++ l₂, other.request.isResolve = false := by
  obtain ⟨call', l, r, hrequest, hcourse⟩ := h.place
  obtain ⟨passed, -, hfirst, hasked⟩ := hcourse.asked (hrequest ▸ hcall)
  refine ⟨⟨_, hrequest.symm.trans hasked⟩, fun other hother => ?_⟩
  rcases List.mem_append.1 hother with hother | hother
  · rw [hfirst] at hother
    exact Lifecycle.isResolve_begun hother
  · cases hresolve : other.request.isResolve with
    | false => rfl
    | true =>
      obtain ⟨m₁, m₂, rfl⟩ := List.append_of_mem hother
      rw [← List.cons_append, ← List.append_assoc] at h
      obtain ⟨other', l', r', hrequest', hcourse'⟩ := h.place
      obtain ⟨passed', -, hbegun, -⟩ := hcourse'.asked (hrequest' ▸ hresolve)
      -- the first of two such calls would be one of the `before` stage
      have hmem : call ∈ l₁ ++ call :: m₁ := List.mem_append_right l₁ List.mem_cons_self
      rw [hbegun] at hmem
      have hnone := Lifecycle.isResolve_begun hmem
      rw [hcall] at hnone
      cases hnone

end FeatureFlags
