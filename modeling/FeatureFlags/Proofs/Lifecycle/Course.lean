import FeatureFlags.Proofs.Calls

/-!
# The course of an evaluation

Which calls an evaluation makes, in which order, and what each call is handed. The hooks may do
anything and may answer anything, so there is a course for each way in which they and the resolving
function answer. Main statement: every run is a chain of the calls of one such course.
-/
namespace FeatureFlags

/-- What hooks see after one of them returned a context, or none. -/
def HookContext.enrich (hc : HookContext) : Option Context → HookContext
  | none => hc
  | some more => { hc with context := Context.merge [hc.context, more] }

namespace Lifecycle

/-- What hooks see after some of them passed, each with what it returned. -/
def gathered (hc : HookContext) (passed : List (Hook × Option Context)) : HookContext :=
  passed.foldl (fun hc p => hc.enrich p.2) hc

/-- The calls of `before` that passed. Each hook sees what those before it returned. -/
def begun (hints : Hints) : HookContext → List (Hook × Option Context) → List Call
  | _, [] => []
  | hc, (hook, more) :: rest =>
    ⟨.before hook hc hints, .ok (.ok more)⟩ :: begun hints (hc.enrich more) rest

/-- The calls of `after` that passed, of hooks in the order in which they are given. -/
def approved (hc : HookContext) (details : Evaluation Json) (hints : Hints) (hooks : List Hook) :
    List Call :=
  hooks.map fun hook => ⟨.after hook hc details hints, .ok (.ok ())⟩

/-- Every hook is told of an error, the last one first. -/
def told (hooks : List Hook) (hc : HookContext) (e : EvaluationError) (hints : Hints) : List Call :=
  hooks.reverse.map fun hook => ⟨.error hook hc e hints, .ok ()⟩

/-- Every hook is told of the result, the last one first. -/
def ended {t : FlagType} (hooks : List Hook) (hc : HookContext) (r : Resolution t.Value)
    (hints : Hints) : List Call :=
  hooks.reverse.map fun hook => ⟨.atEnd hook hc (r.toJson.of hc.flag) hints, .ok ()⟩

section

variable {t : FlagType} (hooks : List Hook) (hc : HookContext) (hints : Hints) (default : t.Value)
  (resolve : Context → Eval (Resolution t.Value))

/-- The calls between the `before` stage and the end of an evaluation that nothing stopped: the
resolving function is asked once, in the context that hooks see by then. -/
inductive Settled : List Call → Resolution t.Value → Prop where
  /-- There is an error in the answer. -/
  | refused {r : Resolution t.Value} {e : EvaluationError} (h : r.error = some e) :
    Settled (⟨.resolve t resolve hc.context, .ok r⟩ :: told hooks hc e hints) r
  /-- A hook rejects the answer, and those after it in reverse order are not asked. -/
  | rejected {r : Resolution t.Value} (h : r.error = none) {first rest : List Hook} {hook : Hook}
    (hs : hooks.reverse = first ++ hook :: rest) {e : EvaluationError} :
    Settled (⟨.resolve t resolve hc.context, .ok r⟩ ::
        (approved hc (r.toJson.of hc.flag) hints first ++
          ⟨.after hook hc (r.toJson.of hc.flag) hints, .ok (.error e)⟩ :: told hooks hc e hints))
      (.failed default e)
  | accepted {r : Resolution t.Value} (h : r.error = none) :
    Settled (⟨.resolve t resolve hc.context, .ok r⟩ ::
      approved hc (r.toJson.of hc.flag) hints hooks.reverse) r

/-- The calls of an evaluation and its result. -/
inductive Course : List Call → Resolution t.Value → Prop where
  /-- A hook fails before the evaluation, and those behind it are not asked. -/
  | stopped {passed : List (Hook × Option Context)} {hook : Hook} {rest : List Hook}
    (hs : hooks = passed.map (·.1) ++ hook :: rest) {e : EvaluationError} :
    Course (begun hints hc passed ++
        ⟨.before hook (gathered hc passed) hints, .ok (.error e)⟩ ::
          (told hooks (gathered hc passed) e hints ++
            ended hooks (gathered hc passed) (.failed default e) hints))
      (.failed default e)
  | settled {passed : List (Hook × Option Context)} (hs : hooks = passed.map (·.1))
    {l : List Call} {r : Resolution t.Value}
    (h : Settled hooks (gathered hc passed) hints default resolve l r) :
    Course (begun hints hc passed ++ l ++ ended hooks (gathered hc passed) r hints) r

end

/-! ## The stages -/

/-- The calls of the `before` stage, with what hooks see after it and whether one failed. -/
inductive Started (hints : Hints) (hc : HookContext) (hooks : List Hook) :
    List Call → HookContext × Except EvaluationError Unit → Prop where
  | passed (passed : List (Hook × Option Context)) (hs : hooks = passed.map (·.1)) :
    Started hints hc hooks (begun hints hc passed) (gathered hc passed, .ok ())
  | failed (passed : List (Hook × Option Context)) {hook : Hook} {rest : List Hook}
    (hs : hooks = passed.map (·.1) ++ hook :: rest) {e : EvaluationError} :
    Started hints hc hooks
      (begun hints hc passed ++ [⟨.before hook (gathered hc passed) hints, .ok (.error e)⟩])
      (gathered hc passed, .error e)

theorem Started.cons {hints : Hints} {hc : HookContext} {hook : Hook} {hooks : List Hook}
    {more : Option Context} {l : List Call} {r : HookContext × Except EvaluationError Unit}
    (h : Started hints (hc.enrich more) hooks l r) :
    Started hints hc (hook :: hooks) (⟨.before hook hc hints, .ok (.ok more)⟩ :: l) r := by
  cases h with
  | passed passed hs => exact .passed ((hook, more) :: passed) (by rw [hs, List.map_cons])
  | failed passed hs => exact .failed ((hook, more) :: passed) (by rw [hs, List.map_cons]; rfl)

theorem runBefore_follows (hints : Hints) (hooks : List Hook) (hc : HookContext) :
    Follows Store.Logged (runBefore hints hooks hc) (Started hints hc hooks) := by
  induction hooks generalizing hc with
  | nil =>
    refine (Follows.pure _).mono ?_
    rintro l r ⟨rfl, rfl⟩
    exact .passed [] rfl
  | cons hook rest ih =>
    have hcall : Follows Store.Logged _ _ := Follows.request (.before hook hc hints)
    refine (hcall.bind (D := fun answer l r => match answer with
      | .error e => l = [] ∧ r = (hc, .error e)
      | .ok more => Started hints (hc.enrich more) rest l r) ?_).mono ?_
    · rintro (e | _ | more)
      · exact Follows.pure _
      · exact ih hc
      · exact ih _
    · rintro _ r ⟨_, answer, l, rfl, rfl, h⟩
      cases answer with
      | error e =>
        obtain ⟨rfl, rfl⟩ := h
        exact .failed [] rfl
      | ok more => exact Started.cons h

/-- The calls of the `after` stage, of hooks in the order in which they are given. -/
inductive Reviewed (hc : HookContext) (details : Evaluation Json) (hints : Hints)
    (hooks : List Hook) : List Call → Except EvaluationError Unit → Prop where
  | approved : Reviewed hc details hints hooks (approved hc details hints hooks) (.ok ())
  | rejected (first : List Hook) {rest : List Hook} {hook : Hook}
    (hs : hooks = first ++ hook :: rest) {e : EvaluationError} : Reviewed hc details hints hooks
      (Lifecycle.approved hc details hints first ++
        [⟨.after hook hc details hints, .ok (.error e)⟩]) (.error e)

theorem Reviewed.cons {hc : HookContext} {details : Evaluation Json} {hints : Hints} {hook : Hook}
    {hooks : List Hook} {l : List Call} {r : Except EvaluationError Unit}
    (h : Reviewed hc details hints hooks l r) :
    Reviewed hc details hints (hook :: hooks)
      (⟨.after hook hc details hints, .ok (.ok ())⟩ :: l) r := by
  cases h with
  | approved => exact .approved
  | rejected first hs => exact .rejected (hook :: first) (by rw [hs]; rfl)

theorem runAfter_follows (hc : HookContext) (details : Evaluation Json) (hints : Hints)
    (hooks : List Hook) :
    Follows Store.Logged (runAfter hc details hints hooks) (Reviewed hc details hints hooks) := by
  induction hooks with
  | nil =>
    refine (Follows.pure _).mono ?_
    rintro l r ⟨rfl, rfl⟩
    exact .approved
  | cons hook rest ih =>
    have hcall : Follows Store.Logged _ _ := Follows.request (.after hook hc details hints)
    refine (hcall.bind (D := fun answer l r => match answer with
      | .error e => l = [] ∧ r = .error e
      | .ok () => Reviewed hc details hints rest l r) ?_).mono ?_
    · rintro (e | _)
      · exact Follows.pure _
      · exact ih
    · rintro _ r ⟨_, answer, l, rfl, rfl, h⟩
      cases answer with
      | error e =>
        obtain ⟨rfl, rfl⟩ := h
        exact .rejected [] rfl
      | ok _ => exact Reviewed.cons h

theorem runError_follows (hooks : List Hook) (hc : HookContext) (e : EvaluationError)
    (hints : Hints) :
    Follows Store.Logged (runError hooks hc e hints) fun l _ => l = told hooks hc e hints :=
  Follows.forM (fun hook => Follows.request (.error hook hc e hints)) _

theorem runAtEnd_follows {t : FlagType} (hooks : List Hook) (hc : HookContext)
    (r : Resolution t.Value) (hints : Hints) :
    Follows Store.Logged (runAtEnd hooks hc (r.toJson.of hc.flag) hints)
      fun l _ => l = ended hooks hc r hints :=
  Follows.forM (fun hook => Follows.request (.atEnd hook hc _ hints)) _

section

variable {t : FlagType} {hooks : List Hook} {hc : HookContext} {hints : Hints} {default : t.Value}
  {resolve : Context → Eval (Resolution t.Value)}

/-- An error is reported and told to every hook, and the default is served. -/
theorem fail_follows (message : String) (e : EvaluationError) :
    Follows Store.Logged
      (do
        Eval.report .warn message [("flag_key", .text hc.flag)]
        runError hooks hc e hints
        return .failed default e)
      fun l (r : Resolution t.Value) => l = told hooks hc e hints ∧ r = .failed default e := by
  refine ((Follows.report _ _ _).bind fun _ =>
    (runError_follows hooks hc e hints).bind fun _ => Follows.pure _).mono ?_
  rintro _ _ ⟨_, _, _, rfl, rfl, _, _, _, rfl, rfl, rfl, rfl⟩
  exact ⟨List.append_nil _, rfl⟩

/-- The course of an evaluation whose answer is without an error. -/
theorem review_follows {r : Resolution t.Value} (hr : r.error = none) :
    Follows Store.Logged
      (do
        match ← runAfter hc (r.toJson.of hc.flag) hints hooks.reverse with
        | .ok () => return r
        | .error e =>
          Eval.report .warn ("after hook rejected evaluation: " ++ e.text)
            [("flag_key", .text hc.flag)]
          runError hooks hc e hints
          return .failed default e)
      fun l r' => Settled hooks hc hints default resolve
        (⟨.resolve t resolve hc.context, .ok r⟩ :: l) r' := by
  refine ((runAfter_follows hc _ hints hooks.reverse).bind
    (D := fun verdict l r' => match verdict with
      | .ok () => l = [] ∧ r' = r
      | .error e => l = told hooks hc e hints ∧ r' = .failed default e) ?_).mono ?_
  · rintro (e | _)
    · exact fail_follows _ e
    · exact Follows.pure r
  · rintro _ r' ⟨_, verdict, l, rfl, hreview, hl⟩
    cases hreview with
    | approved =>
      obtain ⟨rfl, rfl⟩ := hl
      rw [List.append_nil]
      exact .accepted hr
    | rejected first hs =>
      obtain ⟨rfl, rfl⟩ := hl
      rw [List.append_assoc, List.singleton_append]
      exact .rejected hr hs

theorem settle_ok_follows :
    Follows Store.Logged (settle hooks hc hints default resolve (.ok ()))
      (Settled hooks hc hints default resolve) := by
  have hcall : Follows Store.Logged _ _ := Follows.request (.resolve t resolve hc.context)
  refine (hcall.bind (D := fun r l r' =>
    Settled hooks hc hints default resolve (⟨.resolve t resolve hc.context, .ok r⟩ :: l) r')
    ?_).mono ?_
  · intro r
    cases hr : r.error with
    | some e =>
      refine ((runError_follows hooks hc e hints).bind fun _ => Follows.pure r).mono ?_
      rintro _ _ ⟨_, _, _, rfl, rfl, rfl, rfl⟩
      rw [List.append_nil]
      exact .refused hr
    | none =>
      exact review_follows hr
  · rintro _ r' ⟨_, r, l, rfl, rfl, h⟩
    exact h

/-- The calls of an evaluation behind its `before` stage, up to the end. -/
theorem settle_follows (started : Except EvaluationError Unit) :
    Follows Store.Logged (settle hooks hc hints default resolve started) fun l r =>
      match started with
      | .error e => l = told hooks hc e hints ∧ r = .failed default e
      | .ok () => Settled hooks hc hints default resolve l r := by
  cases started with
  | error e => exact fail_follows _ e
  | ok _ => exact settle_ok_follows

theorem evaluate_follows (hooks : List Hook) (hc : HookContext) (hints : Hints) (default : t.Value)
    (resolve : Context → Eval (Resolution t.Value)) :
    Follows Store.Logged (evaluate hooks hc hints default resolve)
      (Course hooks hc hints default resolve) := by
  have hsettle (p : HookContext × Except EvaluationError Unit) :
      Follows Store.Logged (settle hooks p.1 hints default resolve p.2) _ := settle_follows p.2
  refine ((runBefore_follows hints hooks hc).bind fun p => (hsettle p).bind fun r =>
    (runAtEnd_follows hooks p.1 r hints).bind fun _ => Follows.pure r).mono ?_
  rintro _ r ⟨_, p, _, rfl, hstart, l, r', _, rfl, hcourse, _, _, _, rfl, rfl, rfl, rfl⟩
  rw [List.append_nil]
  cases hstart with
  | passed passed hs =>
    rw [← List.append_assoc]
    exact .settled hs hcourse
  | failed passed hs =>
    obtain ⟨rfl, rfl⟩ := hcourse
    rw [List.append_assoc, List.singleton_append]
    exact .stopped hs

end

end Lifecycle

end FeatureFlags
