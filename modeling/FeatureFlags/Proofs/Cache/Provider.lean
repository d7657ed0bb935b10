import FeatureFlags.Cache.Provider
import FeatureFlags.Proofs.Cache.Contents
import FeatureFlags.Proofs.Calls

/-!
# The steps of a cached provider

A cached provider looks up what is asked, and serves what it finds. Otherwise it asks the provider
inside and puts the answer in.
-/
namespace FeatureFlags

namespace Cache

/-- The store behind a look-up in the cache of an owner. -/
def lookedUp (owner : Nat) (key : String) (s : Store) : Store :=
  { s with caches := s.caches.set owner ((s.caches owner).get? key s.now).2 }

/-- The store in which the cache of an owner was given a result. -/
def remembered (owner : Nat) (key : String) (r : Resolution Json) (s : Store) : Store :=
  { s with caches := s.caches.set owner ((s.caches owner).insert key r s.now) }

/-- What the cache of an owner has for a flag, a type and a context. -/
def found? (digest : String → String) (owner : Nat) (t : FlagType) (flag : String) (c : Context)
    (s : Store) : Option (Resolution t.Value) :=
  ((s.caches owner).get? (key digest flag t c) s.now).1.bind (typed? t)

theorem on_lookUp (owner : Nat) (key : String) (s : Store) :
    (lookUp owner key).on s =
      (.ok ((s.caches owner).get? key s.now).1, lookedUp owner key s) := rfl

theorem typed?_toJson {t : FlagType} {r : Resolution t.Value}
    (h : t.ofJson? (t.toJson r.value) = some r.value) : typed? t r.toJson = some r := by
  have hvalue : typed? t r.toJson = (t.ofJson? (t.toJson r.value)).map fun value =>
      { r with value } := rfl
  rw [hvalue, h]
  rfl

@[simp]
theorem lookedUp_caches (owner : Nat) (key : String) (s : Store) :
    (lookedUp owner key s).caches owner = ((s.caches owner).get? key s.now).2 := by
  simp [lookedUp]

@[simp]
theorem remembered_caches (owner : Nat) (key : String) (r : Resolution Json) (s : Store) :
    (remembered owner key r s).caches owner = (s.caches owner).insert key r s.now := by
  simp [remembered]

theorem lookedUp_caches_ne {owner i : Nat} (h : i ≠ owner) (key : String) (s : Store) :
    (lookedUp owner key s).caches i = s.caches i := by
  simp [lookedUp, h]

theorem remembered_caches_ne {owner i : Nat} (h : i ≠ owner) (key : String) (r : Resolution Json)
    (s : Store) : (remembered owner key r s).caches i = s.caches i := by
  simp [remembered, h]

/-- A look-up adds nothing to any cache. -/
theorem holds_lookedUp {owner i : Nat} {key k : String} {d : Resolution Json} {s : Store}
    (h : ((lookedUp owner key s).caches i).Holds k d) : (s.caches i).Holds k d := by
  by_cases hi : i = owner
  · subst hi
    rw [lookedUp_caches] at h
    exact holds_get? h
  · rwa [lookedUp_caches_ne hi] at h

/-- All that is new behind an insertion is the result that was put in. -/
theorem holds_remembered {owner i : Nat} {key k : String} {r d : Resolution Json} {s : Store}
    (h : ((remembered owner key r s).caches i).Holds k d) :
    (s.caches i).Holds k d ∨ i = owner ∧ k = key ∧ d = r ∧ r.error = none := by
  by_cases hi : i = owner
  · subst hi
    rw [remembered_caches] at h
    rcases holds_insert h with hheld | hnew
    · exact .inl hheld
    · exact .inr ⟨rfl, hnew⟩
  · rw [remembered_caches_ne hi] at h
    exact .inl h

end Cache

namespace Provider

variable {digest : String → String} {owner : Nat} {inner : Provider} {t : FlagType} {flag : String}
  {default : t.Value} {c : Context} {s : Store}

/-- What is found in the cache is served without asking further. -/
theorem on_cached_hit (inner : Provider) (default : t.Value) {r : Resolution t.Value}
    (h : Cache.found? digest owner t flag c s = some r) :
    ∃ s₁, ((cached digest owner inner).resolve t flag default c).on s =
        (.ok { r with reason := some .cached }, s₁) ∧
      (Cache.lookedUp owner (Cache.key digest flag t c) s).Logged s₁ := by
  refine ⟨_, (Eval.on_bind_ok (Cache.on_lookUp owner _ s)).trans ?_, Store.logged_report .trace
    "serving flag from cache" [("flag_key", .text flag)] _⟩
  rw [Cache.found?] at h
  rw [h]
  rfl

/-- What is not found is asked of the provider inside, and put in. -/
theorem on_cached_miss {r : Resolution t.Value} {s₁ : Store}
    (h : Cache.found? digest owner t flag c s = none)
    (hinner : (inner.resolve t flag default c).on
      (Cache.lookedUp owner (Cache.key digest flag t c) s) = (.ok r, s₁)) :
    ((cached digest owner inner).resolve t flag default c).on s =
      (.ok r, Cache.remembered owner (Cache.key digest flag t c) r.toJson s₁) := by
  refine (Eval.on_bind_ok (Cache.on_lookUp owner _ s)).trans ?_
  rw [Cache.found?] at h
  rw [h]
  exact Eval.on_bind_ok hinner

end Provider

end FeatureFlags
