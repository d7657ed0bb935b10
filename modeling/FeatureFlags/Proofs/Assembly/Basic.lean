import FeatureFlags.Cache.Provider
import FeatureFlags.Client
import FeatureFlags.Multi.Provider

/-!
# Assemblies of providers

Providers that are put together in any nesting, as trees: leaves stand behind caches, are isolated
and are combined. What is said to the whole, to start or to stop, comes by every leaf and every
cache; the stops are listed in their order, a leaf or a cache as often as it occurs.
-/
namespace FeatureFlags

inductive Assembly where
  | leaf (p : Provider)
  | cached (digest : String → String) (owner : Nat) (inner : Assembly)
  /-- An isolator with some hooks behind those of its provider. -/
  | isolated (owner : Nat) (inner : Assembly) (more : List Hook)
  /-- Members, each with its name and the number of its isolator. -/
  | combined (strategy : Multi.Strategy) (members : List (String × Nat × Assembly))

namespace Assembly

/-- Induction over the nesting, with all members of a combination at once. -/
@[induction_eliminator]
theorem induct {motive : Assembly → Prop} (leaf : ∀ p, motive (.leaf p))
    (cached : ∀ digest owner inner, motive inner → motive (.cached digest owner inner))
    (isolated : ∀ owner inner more, motive inner → motive (.isolated owner inner more))
    (combined : ∀ strategy members, (∀ x ∈ members, motive x.2.2) →
      motive (.combined strategy members)) : ∀ a, motive a
  | .leaf p => leaf p
  | .cached digest owner inner =>
    cached digest owner inner (induct leaf cached isolated combined inner)
  | .isolated owner inner more =>
    isolated owner inner more (induct leaf cached isolated combined inner)
  | .combined strategy members => combined strategy members fun x hx =>
    have : sizeOf x.2.2 < 1 + sizeOf strategy + sizeOf members := by
      have hmem := List.sizeOf_lt_of_mem hx
      obtain ⟨name, owner, inner⟩ := x
      simp only [Prod.mk.sizeOf_spec] at hmem
      show sizeOf inner < 1 + sizeOf strategy + sizeOf members
      omega
    induct leaf cached isolated combined x.2.2
termination_by a => sizeOf a

mutual

/-- The provider that comes of an assembly. -/
def provider : Assembly → Provider
  | .leaf p => p
  | .cached digest owner inner => .cached digest owner inner.provider
  | .isolated owner inner more => (Isolator.new owner inner.provider more).toProvider
  | .combined strategy members => Multi.toProvider ⟨membersOf members, strategy⟩

def membersOf : List (String × Nat × Assembly) → List Multi.Member
  | [] => []
  | (name, owner, inner) :: rest => ⟨name, .new owner inner.provider []⟩ :: membersOf rest

end

/-- A client over an assembly. -/
def client (a : Assembly) (name : String) (context : Context) (hooks : List Hook) : Client :=
  ⟨a.provider, name, context, hooks⟩

/-- A place that a call to the whole comes by: a leaf is told, or a cache is emptied. -/
inductive Stop where
  | leaf (p : Provider)
  | cache (owner : Nat)

namespace Stop

def leaf? : Stop → Option Provider
  | .leaf p => some p
  | .cache _ => none

def cache? : Stop → Option Nat
  | .leaf _ => none
  | .cache owner => some owner

end Stop

mutual

def stops : Assembly → List Stop
  | .leaf p => [.leaf p]
  | .cached _ owner inner => .cache owner :: inner.stops
  | .isolated _ inner _ => inner.stops
  | .combined _ members => stopsOf members

def stopsOf : List (String × Nat × Assembly) → List Stop
  | [] => []
  | (_, _, inner) :: rest => inner.stops ++ stopsOf rest

end

/-- The leaves in their order, each as often as it occurs. -/
def leaves (a : Assembly) : List Provider := a.stops.filterMap Stop.leaf?

/-- The numbers of the caches. -/
def caches (a : Assembly) : List Nat := a.stops.filterMap Stop.cache?

theorem mem_leaves {a : Assembly} {p : Provider} (h : .leaf p ∈ a.stops) : p ∈ a.leaves :=
  List.mem_filterMap.2 ⟨_, h, rfl⟩

theorem cache_mem_stops {a : Assembly} {owner : Nat} (h : owner ∈ a.caches) :
    .cache owner ∈ a.stops := by
  obtain ⟨stop, hstop, hcache⟩ := List.mem_filterMap.1 h
  cases stop with
  | leaf p => cases hcache
  | cache other =>
    cases hcache
    exact hstop

/-- A member as a combined provider holds it. -/
def member (x : String × Nat × Assembly) : Multi.Member := ⟨x.1, .new x.2.1 x.2.2.provider []⟩

theorem membersOf_eq_map (members : List (String × Nat × Assembly)) :
    membersOf members = members.map member := by
  induction members with
  | nil => rfl
  | cons x rest ih => exact congrArg (member x :: ·) ih

theorem stopsOf_eq_flatMap (members : List (String × Nat × Assembly)) :
    stopsOf members = members.flatMap fun x => x.2.2.stops := by
  induction members with
  | nil => rfl
  | cons x rest ih => exact congrArg (x.2.2.stops ++ ·) ih

theorem provider_combined (strategy : Multi.Strategy) (members : List (String × Nat × Assembly)) :
    (combined strategy members).provider = Multi.toProvider ⟨members.map member, strategy⟩ := by
  rw [provider, membersOf_eq_map]

theorem stops_combined (strategy : Multi.Strategy) (members : List (String × Nat × Assembly)) :
    (combined strategy members).stops = members.flatMap fun x => x.2.2.stops := by
  rw [stops, stopsOf_eq_flatMap]

theorem leaves_combined (strategy : Multi.Strategy) (members : List (String × Nat × Assembly)) :
    (combined strategy members).leaves = members.flatMap fun x => x.2.2.leaves := by
  rw [leaves, stops_combined, List.filterMap_flatMap]
  rfl

end Assembly

end FeatureFlags
