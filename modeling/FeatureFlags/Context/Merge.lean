import FeatureFlags.Context
import FeatureFlags.Table.Lookup

/-!
# Merged contexts

What a merged context says of each of its parts: what the first of two contexts says, and where that
one is silent, what the second says. An empty targeting key says nothing.
-/
namespace FeatureFlags

namespace Table

variable {α : Type u}

/-- Adding entries one by one where they are new leaves what is there and completes it. -/
theorem get?_foldl_insertIfNew (entries : List (String × α)) (t : Table α) (name : String) :
    (entries.foldl (fun t e => t.insertIfNew e.1 e.2) t).get? name =
      (t.get? name).or (Entries.get? entries name) := by
  induction entries generalizing t with
  | nil => simp [Entries.get?]
  | cons head rest ih =>
    rw [List.foldl_cons, ih, get?_insertIfNew, Entries.get?_cons]
    by_cases h : name = head.1
    · subst h
      cases t.get? head.1 <;> simp
    · have hne : head.1 ≠ name := fun e => h e.symm
      simp [h, hne]

end Table

namespace Context

/-- What passes a test passes it again. -/
theorem filter_or_filter (a b : Option String) (p : String → Bool) :
    ((a.filter p).or (b.filter p)).filter p = (a.filter p).or (b.filter p) := by
  cases h : a.filter p with
  | none => simp [Option.filter_filter]
  | some s =>
    have hs : p s = true := (Option.filter_eq_some_iff.1 h).2
    simp [hs]

@[simp]
theorem targetingKey?_mergeTwo (a b : Context) :
    (mergeTwo a b).targetingKey? = a.targetingKey?.or b.targetingKey? :=
  filter_or_filter a.targetingKey b.targetingKey _

@[simp]
theorem attribute?_mergeTwo (a b : Context) (name : String) :
    (mergeTwo a b).attribute? name = (a.attribute? name).or (b.attribute? name) :=
  Table.get?_foldl_insertIfNew b.attributes.entries a.attributes name

end Context

end FeatureFlags
