import FeatureFlags.Context.Merge

/-!
# Merging one at a time

Contexts that come one after the other may be merged as they come: the result says the same as one
merge of all of them. The two differ at most in how they write a missing targeting key.
-/
namespace FeatureFlags

theorem Table.foldl_insertIfNew_empty {α : Type} (t : Table α) :
    t.entries.foldl (fun t e => t.insertIfNew e.1 e.2) Table.empty = t := by
  apply Table.ext_get?
  intro name
  rw [Table.get?_foldl_insertIfNew, Table.get?_empty, Option.none_or]
  rfl

namespace Context

/-- Two contexts that say the same; an empty targeting key counts as none. -/
structure Same (a b : Context) : Prop where
  targetingKey : a.targetingKey? = b.targetingKey?
  attributes : a.attributes = b.attributes

namespace Same

variable {a b c d : Context}

protected theorem refl (a : Context) : Same a a := ⟨rfl, rfl⟩

theorem symm (h : Same a b) : Same b a := ⟨h.targetingKey.symm, h.attributes.symm⟩

theorem trans (h : Same a b) (h' : Same b c) : Same a c :=
  ⟨h.targetingKey.trans h'.targetingKey, h.attributes.trans h'.attributes⟩

theorem mergeTwo (h : Same a b) (h' : Same c d) :
    Same (Context.mergeTwo a c) (Context.mergeTwo b d) := by
  constructor
  · rw [targetingKey?_mergeTwo, targetingKey?_mergeTwo, h.targetingKey, h'.targetingKey]
  · simp only [Context.mergeTwo, h.attributes, h'.attributes]

end Same

theorem mergeTwo_empty_same (c : Context) : Same (mergeTwo empty c) c := by
  constructor
  · rw [targetingKey?_mergeTwo]
    rfl
  · exact Table.foldl_insertIfNew_empty c.attributes

theorem merge_pair_same (c d : Context) : Same (merge [c, d]) (mergeTwo c d) :=
  (mergeTwo_empty_same c).mergeTwo (.refl d)

/-- Merging contexts one by one into a first one is merging all of them. -/
theorem foldl_merge_same (c : Context) (more : List Context) :
    Same (more.foldl (fun c d => merge [c, d]) c) (merge (c :: more)) := by
  suffices h : ∀ a b, Same a b →
      Same (more.foldl (fun c d => merge [c, d]) a) (more.foldl mergeTwo b) from
    h c _ (mergeTwo_empty_same c).symm
  induction more with
  | nil => exact fun _ _ h => h
  | cons d rest ih =>
    intro a b h
    exact ih _ _ ((merge_pair_same a d).trans (h.mergeTwo (.refl d)))

end Context

end FeatureFlags
