import FeatureFlags.Proofs.Client
import FeatureFlags.Proofs.Lifecycle.Seen
import FeatureFlags.Proofs.Multi.Turns
import Mathlib.Data.List.Induction

/-!
# Contexts in groups

Of each part of a context the first of many contexts decides that says anything of it; null is a
value like any other. How the contexts are grouped on the way does not matter: what a provider is
asked in is one merge of the context of the call, that of the client and all that hooks returned, of
the client first and then of the provider (`merge_first_wins`).
-/
namespace FeatureFlags

namespace Context

variable {c d : Context} {contexts more : List Context}

/-- A context is what it says of its parts. -/
theorem eq_of_parts (hkey : c.targetingKey = d.targetingKey)
    (hattributes : ∀ name, c.attribute? name = d.attribute? name) : c = d := by
  have h : c.attributes = d.attributes := Table.ext_get? hattributes
  cases c
  cases d
  simp_all

theorem findSome?_cons_or {α : Type} (f : Context → Option α) (c : Context)
    (contexts : List Context) :
    (c :: contexts).findSome? f = (f c).or (contexts.findSome? f) := by
  rw [List.findSome?_cons]
  cases f c <;> rfl

theorem merge_concat (contexts : List Context) (c : Context) :
    merge (contexts ++ [c]) = mergeTwo (merge contexts) c := by
  simp [merge]

/-! ## The parts of a merged context -/

theorem targetingKey?_merge (contexts : List Context) :
    (merge contexts).targetingKey? = contexts.findSome? targetingKey? := by
  induction contexts using List.reverseRecOn with
  | nil => rfl
  | append_singleton contexts c ih => simp [merge_concat, ih]

/-- No empty key is kept. -/
theorem targetingKey_merge (contexts : List Context) :
    (merge contexts).targetingKey = contexts.findSome? targetingKey? := by
  rw [← targetingKey?_merge]
  induction contexts using List.reverseRecOn with
  | nil => rfl
  | append_singleton contexts c _ =>
    rw [merge_concat, targetingKey?_mergeTwo]
    rfl

theorem attribute?_merge (contexts : List Context) (name : String) :
    (merge contexts).attribute? name = contexts.findSome? (·.attribute? name) := by
  induction contexts using List.reverseRecOn with
  | nil => rfl
  | append_singleton contexts c ih => simp [merge_concat, ih]

/-! ## Groups -/

theorem findSome?_groups {α : Type} {f : Context → Option α}
    (h : ∀ group, f (merge group) = group.findSome? f) (groups : List (List Context)) :
    (groups.map merge).findSome? f = groups.flatten.findSome? f := by
  induction groups with
  | nil => rfl
  | cons group rest ih =>
    rw [List.map_cons, findSome?_cons_or, List.flatten_cons, List.findSome?_append, h, ih]

/-- A merge of merges is one merge. -/
theorem merge_groups (groups : List (List Context)) :
    merge (groups.map merge) = merge groups.flatten := by
  apply eq_of_parts
  · rw [targetingKey_merge, targetingKey_merge]
    exact findSome?_groups targetingKey?_merge groups
  · intro name
    rw [attribute?_merge, attribute?_merge]
    exact findSome?_groups (attribute?_merge · name) groups

/-- A context stands for those of which it says what they say. -/
theorem merge_cons_of_same (h : c.Same (merge contexts)) (more : List Context) :
    merge (c :: more) = merge (contexts ++ more) := by
  apply eq_of_parts
  · rw [targetingKey_merge, targetingKey_merge, findSome?_cons_or, List.findSome?_append,
      h.targetingKey, targetingKey?_merge]
  · intro name
    have hname : c.attribute? name = (merge contexts).attribute? name := by
      rw [attribute?, h.attributes, attribute?]
    rw [attribute?_merge, attribute?_merge, findSome?_cons_or, List.findSome?_append, hname,
      attribute?_merge]

/-- Contexts that come one at a time are merged as if all were there. -/
theorem foldl_merge (contexts more : List Context) :
    more.foldl (fun c d => merge [c, d]) (merge contexts) = merge (contexts ++ more) := by
  induction more generalizing contexts with
  | nil => simp
  | cons d rest ih =>
    rw [List.foldl_cons, merge_cons_of_same (.refl _), ih, List.append_assoc]
    rfl

end Context

/-! ## Contexts of hooks -/

namespace Lifecycle

/-- The `before` stage leaves one merge of the context it starts from and all that hooks returned,
also if one of them fails. -/
theorem runBefore_merges (hints : Hints) (hooks : List Hook) (hc : HookContext) :
    Follows Store.Logged (runBefore hints hooks hc) fun calls p =>
      p.1.context.Same (Context.merge (hc.context :: calls.filterMap Call.returned?)) := by
  refine (runBefore_follows hints hooks hc).mono fun calls p h => ?_
  have hgathered (passed : List (Hook × Option Context)) : (gathered hc passed).context.Same
      (Context.merge (hc.context :: (begun hints hc passed).filterMap Call.returned?)) := by
    rw [← (sees_begun hints hc passed).2]
    exact Call.foldl_enrich_same hc.context _
  cases h with
  | passed passed _ => exact hgathered passed
  | @failed passed hook _ _ e =>
    have hnone : Call.returned? ⟨.before hook (gathered hc passed) hints, .ok (.error e)⟩ = none :=
      rfl
    rw [List.filterMap_append, List.filterMap_cons_none hnone, List.filterMap_nil, List.append_nil]
    exact hgathered passed

end Lifecycle

/-- The context of a call is one merge of what the caller and the client say. -/
theorem Client.evaluationContext_same (client : Client) (context : Option Context) :
    (client.evaluationContext context).Same
      (Context.merge (context.toList ++ [client.context])) := by
  cases context with
  | none => exact (Context.mergeTwo_empty_same client.context).symm
  | some invocation => exact .refl _

namespace Context

/-- The first context that says anything of a part wins, however contexts are grouped. -/
theorem merge_first_wins :
    (∀ contexts : List Context,
      (merge contexts).targetingKey = contexts.findSome? targetingKey? ∧
      ∀ name, (merge contexts).attribute? name = contexts.findSome? (·.attribute? name)) ∧
    (∀ groups : List (List Context), merge (groups.map merge) = merge groups.flatten) ∧
    (∀ contexts more : List Context,
      more.foldl (fun c d => merge [c, d]) (merge contexts) = merge (contexts ++ more)) ∧
    ∀ {t : FlagType} (client : Client) (i : Isolator) (flag : String) (default : t.Value)
      (context : Option Context) (captured : Option Captured) (hints : Hints) (hooks : List Hook),
      Follows Store.Logged
        (do
          let (seen, _) ← Lifecycle.runBefore hints hooks (client.hookContext flag default context)
          Lifecycle.runBefore (captured.getD .none).hints i.hooks
            (i.hookContext captured t flag default seen.context))
        fun calls p => p.1.context.Same
          (merge (context.toList ++ client.context :: calls.filterMap Call.returned?)) := by
  refine ⟨fun contexts => ⟨targetingKey_merge contexts, attribute?_merge contexts⟩, merge_groups,
    foldl_merge, ?_⟩
  intro t client i flag default context captured hints hooks
  have houter := Lifecycle.runBefore_merges hints hooks (client.hookContext flag default context)
  have hboth := houter.bind fun p => Lifecycle.runBefore_merges (captured.getD .none).hints i.hooks
    (i.hookContext captured t flag default p.1.context)
  refine hboth.mono ?_
  rintro _ p ⟨outer, seen, inner, rfl, houter, hinner⟩
  have hseen : seen.1.context.Same
      (merge ((context.toList ++ [client.context]) ++ outer.filterMap Call.returned?)) := by
    rw [← merge_cons_of_same (client.evaluationContext_same context)]
    exact houter
  have hasked : p.1.context.Same (merge (seen.1.context :: inner.filterMap Call.returned?)) :=
    hinner
  rw [merge_cons_of_same hseen] at hasked
  simpa [List.filterMap_append] using hasked

end Context

end FeatureFlags
