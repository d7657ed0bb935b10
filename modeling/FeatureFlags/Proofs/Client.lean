import FeatureFlags.Client
import FeatureFlags.Proofs.Lifecycle.Course

/-!
# The calls of a client

A client runs its own hooks, those of the call and those of its provider around every evaluation.
What it logs of the outcome is no call.
-/
namespace FeatureFlags.Client

variable {t : FlagType}

/-- The hooks of an evaluation. -/
def allHooks (client : Client) (options : EvaluationOptions) : List Hook :=
  client.hooks ++ options.hooks ++ client.provider.hooks

/-- What the hooks of an evaluation are handed at first. -/
def hookContext (client : Client) (flag : String) (default : t.Value) (context : Option Context) :
    HookContext where
  flag := flag
  type := t
  default := t.toJson default
  context := client.evaluationContext context
  client := client.name
  provider := client.provider.name

theorem on_reportOutcome (flag : String) (r : Resolution t.Value) (s : Store) :
    ∃ s₁, (reportOutcome flag r).on s = (.ok (), s₁) ∧ s.Logged s₁ := by
  unfold reportOutcome
  dsimp only
  cases r.error with
  | none => exact ⟨_, rfl, _, rfl⟩
  | some e =>
    dsimp only
    split
    · exact ⟨_, rfl, _, rfl⟩
    · exact ⟨_, rfl, _, rfl⟩

/-- The details of an evaluation are its result with the key of the flag. -/
theorem on_details (client : Client) (flag : String) (default : t.Value) (context : Option Context)
    (options : EvaluationOptions) (s : Store) :
    ∃ s₁, (client.details t flag default context options).on s =
        (((Lifecycle.evaluate (client.allHooks options)
          (client.hookContext flag default context) options.hints default
          (client.resolve t flag default)).on s).1.map fun r => r.of flag, s₁) ∧
      ((Lifecycle.evaluate (client.allHooks options) (client.hookContext flag default context)
        options.hints default (client.resolve t flag default)).on s).2.Logged s₁ := by
  rcases hrun : (Lifecycle.evaluate (client.allHooks options)
    (client.hookContext flag default context) options.hints default
    (client.resolve t flag default)).on s with ⟨e | r, s₂⟩
  · exact ⟨s₂, Eval.on_bind_error hrun, [], by simp⟩
  · obtain ⟨s₁, hreport, hlog⟩ := on_reportOutcome flag r s₂
    exact ⟨s₁, (Eval.on_bind_ok hrun).trans (Eval.on_bind_ok hreport), hlog⟩

/-- An evaluation by a client is a chain of the calls of a course. -/
theorem details_calls (client : Client) (flag : String) (default : t.Value)
    (context : Option Context) (options : EvaluationOptions) (s : Store) :
    ∃ calls outcome,
      Chain Store.Logged s calls ((client.details t flag default context options).on s).2 ∧
      Ends (Lifecycle.Course (client.allHooks options) (client.hookContext flag default context)
        options.hints default (client.resolve t flag default)) calls outcome ∧
      ((client.details t flag default context options).on s).1 =
        outcome.map fun r => r.of flag := by
  obtain ⟨calls, hchain, hends⟩ := (Lifecycle.evaluate_follows (client.allHooks options)
    (client.hookContext flag default context) options.hints default
    (client.resolve t flag default)).run s
  obtain ⟨s₁, hrun, hlog⟩ := client.on_details flag default context options s
  refine ⟨calls, _, ?_, hends, ?_⟩
  · rw [hrun, ← List.append_nil calls]
    exact hchain.append (.of_own hlog)
  · rw [hrun]

end FeatureFlags.Client
