import FeatureFlags.Proofs.Calls
import FeatureFlags.Proofs.Context.Merging
import FeatureFlags.Proofs.Json.Printed
import FeatureFlags.Variables.Provider

/-!
# Which variant is served

The first variant whose conditions a context meets is served as a match, and if there is none, the
first variant of the default's name. Main statement: so it is for every flag that is kept in a
variable, and a context that says more than another one is served a variant that stands at the same
place or before it (`first_match_served`).
-/
namespace FeatureFlags

/-- The first member of a list with a property, and its place. -/
structure FirstAt {α : Type} (p : α → Prop) (l : List α) (i : Nat) (a : α) : Prop where
  found : l[i]? = some a
  holds : p a
  first : ∀ j < i, ∀ b, l[j]? = some b → ¬p b

section

variable {α : Type} {p : α → Prop} {l : List α} {i j : Nat} {a b : α}

theorem find?_eq_some_iff_firstAt {q : α → Bool} (hq : ∀ a, q a = true ↔ p a) :
    l.find? q = some a ↔ ∃ i, FirstAt p l i a := by
  rw [List.find?_eq_some_iff_getElem]
  constructor
  · rintro ⟨ha, i, hi, rfl, hfirst⟩
    refine ⟨i, List.getElem?_eq_getElem hi, (hq _).1 ha, fun j hj b hb => ?_⟩
    have hnot := hfirst j hj
    obtain ⟨hlt, rfl⟩ := List.getElem?_eq_some_iff.1 hb
    simpa [← hq] using hnot
  · rintro ⟨i, hfound, ha, hfirst⟩
    obtain ⟨hi, rfl⟩ := List.getElem?_eq_some_iff.1 hfound
    refine ⟨(hq _).2 ha, i, hi, rfl, fun j hj => ?_⟩
    have hnot := hfirst j hj _ (List.getElem?_eq_getElem (by omega))
    simpa [← hq] using hnot

theorem find?_eq_none_iff_forall {q : α → Bool} (hq : ∀ a, q a = true ↔ p a) :
    l.find? q = none ↔ ∀ a ∈ l, ¬p a := by
  simp [List.find?_eq_none, ← hq]

/-- Where one member has a property there is a first one, which does not stand behind it. -/
theorem exists_firstAt (hb : l[j]? = some b) (h : p b) : ∃ i a, i ≤ j ∧ FirstAt p l i a := by
  induction j using Nat.strong_induction_on generalizing b with
  | h j ih =>
    by_cases hearlier : ∃ i < j, ∃ a, l[i]? = some a ∧ p a
    · obtain ⟨i, hi, a, ha, hp⟩ := hearlier
      obtain ⟨k, d, hk, hfirst⟩ := ih i hi ha hp
      exact ⟨k, d, by omega, hfirst⟩
    · refine ⟨j, b, le_rfl, hb, h, fun i hi a ha hp => ?_⟩
      exact hearlier ⟨i, hi, a, ha, hp⟩

end

/-! ## Conditions of a variant -/

namespace VariantDefinition

variable {v : VariantDefinition} {c : Context}

/-- A context meets all conditions of a variant, and there are some. -/
structure Fits (v : VariantDefinition) (c : Context) : Prop where
  targeted : v.targetingKey ≠ none ∨ v.criteria ≠ []
  targetingKey : ∀ key, v.targetingKey = some key → c.targetingKey? = some key
  criteria : ∀ criterion ∈ v.criteria,
    ∃ a, c.attribute? criterion.key = some a ∧ a.matchesJson criterion.value = true

theorem holds_iff (criterion : Criterion) (c : Context) : criterion.holds c = true ↔
    ∃ a, c.attribute? criterion.key = some a ∧ a.matchesJson criterion.value = true := by
  rw [Criterion.holds]
  cases c.attribute? criterion.key <;> simp

theorem isMatch_iff (v : VariantDefinition) (c : Context) : v.isMatch c = true ↔ v.Fits c := by
  have htargeted : v.isTargeted = true ↔ v.targetingKey ≠ none ∨ v.criteria ≠ [] := by
    simp [isTargeted, Option.isSome_iff_ne_none]
  have hkey : (v.targetingKey.all fun key => c.targetingKey? == some key) = true ↔
      ∀ key, v.targetingKey = some key → c.targetingKey? = some key := by
    simp [Option.all_eq_true]
  have hcriteria : v.criteria.all (·.holds c) = true ↔ ∀ criterion ∈ v.criteria,
      ∃ a, c.attribute? criterion.key = some a ∧ a.matchesJson criterion.value = true := by
    simp [List.all_eq_true, holds_iff]
  rw [isMatch, Bool.and_eq_true, Bool.and_eq_true, htargeted, hkey, hcriteria]
  constructor
  · rintro ⟨⟨h, h'⟩, h''⟩
    exact ⟨h, h', h''⟩
  · intro h
    exact ⟨⟨h.targeted, h.targetingKey⟩, h.criteria⟩

/-- What a context says of the conditions of a variant is not changed by more contexts behind it. -/
theorem Fits.merge (h : v.Fits c) (e : Context) : v.Fits (Context.merge [c, e]) := by
  have hsame := Context.merge_pair_same c e
  constructor
  · exact h.targeted
  · intro key hkey
    rw [hsame.targetingKey, Context.targetingKey?_mergeTwo, h.targetingKey key hkey]
    rfl
  · intro criterion hcriterion
    obtain ⟨a, ha, hmatches⟩ := h.criteria criterion hcriterion
    refine ⟨a, ?_, hmatches⟩
    rw [Context.attribute?, hsame.attributes]
    rw [← Context.attribute?, Context.attribute?_mergeTwo, ha]
    rfl

end VariantDefinition

/-! ## The variant of a flag -/

namespace FlagDefinition

variable {f : FlagDefinition} {c : Context}

/-- The variant that a flag has in a context, its place, and why it is that one. -/
inductive Selects (f : FlagDefinition) (c : Context) : Nat → VariantDefinition → Reason → Prop where
  | matched {i : Nat} {v : VariantDefinition} (h : FirstAt (·.Fits c) f.variants i v) :
    Selects f c i v .targetingMatch
  | byDefault {i : Nat} {v : VariantDefinition} (hnone : ∀ w ∈ f.variants, ¬w.Fits c)
    {name : String} (hname : f.defaultVariant = some name)
    (h : FirstAt (·.name = name) f.variants i v) : Selects f c i v .default

theorem default?_eq_some_iff {v : VariantDefinition} : f.default? = some v ↔
    ∃ name, f.defaultVariant = some name ∧ ∃ i, FirstAt (·.name = name) f.variants i v := by
  rw [default?, Option.bind_eq_some_iff]
  refine exists_congr fun name => and_congr_right fun _ => ?_
  exact find?_eq_some_iff_firstAt (p := fun w : VariantDefinition => w.name = name) (by simp)

theorem choose?_eq_some_iff {v : VariantDefinition} {reason : Reason} :
    f.choose? c = some (v, reason) ↔ ∃ i, f.Selects c i v reason := by
  have hfind : ∀ w, f.variants.find? (·.isMatch c) = some w ↔
      ∃ i, FirstAt (·.Fits c) f.variants i w := fun _ =>
    find?_eq_some_iff_firstAt (VariantDefinition.isMatch_iff · c)
  cases hfirst : f.variants.find? (·.isMatch c) with
  | some w =>
    obtain ⟨i, hi⟩ := (hfind w).1 hfirst
    rw [choose?, hfirst]
    constructor
    · rintro ⟨⟩
      exact ⟨i, .matched hi⟩
    · rintro ⟨j, hj | ⟨hnone, -, -⟩⟩
      · have hsame := hfirst.symm.trans ((hfind v).2 ⟨j, hj⟩)
        rw [Option.some.inj hsame]
      · exact absurd hi.holds (hnone w (List.mem_of_getElem? hi.found))
  | none =>
    have hnone : ∀ w ∈ f.variants, ¬w.Fits c :=
      (find?_eq_none_iff_forall (VariantDefinition.isMatch_iff · c)).1 hfirst
    rw [choose?, hfirst]
    constructor
    · intro h
      obtain ⟨w, hdefault, hw⟩ := Option.map_eq_some_iff.1 h
      cases hw
      obtain ⟨name, hname, i, hi⟩ := default?_eq_some_iff.1 hdefault
      exact ⟨i, .byDefault hnone hname hi⟩
    · rintro ⟨i, hi | ⟨-, hname, hi⟩⟩
      · exact absurd hi.holds (hnone v (List.mem_of_getElem? hi.found))
      · rw [default?_eq_some_iff.2 ⟨_, hname, i, hi⟩]
        rfl

theorem choose?_eq_none
    (hnone : ∀ w ∈ f.variants, ¬w.Fits c ∧ f.defaultVariant ≠ some w.name) :
    f.choose? c = none := by
  rw [Option.eq_none_iff_forall_ne_some]
  rintro ⟨v, reason⟩ hchoose
  obtain ⟨i, hi | ⟨-, hname, hi⟩⟩ := choose?_eq_some_iff.1 hchoose
  · exact (hnone v (List.mem_of_getElem? hi.found)).1 hi.holds
  · refine (hnone v (List.mem_of_getElem? hi.found)).2 ?_
    rw [hname, hi.holds]

/-- A match remains one, or an earlier variant becomes one, when contexts are put behind. -/
theorem Selects.merge {i : Nat} {v : VariantDefinition} (h : f.Selects c i v .targetingMatch)
    (e : Context) : ∃ j w, j ≤ i ∧ f.Selects (Context.merge [c, e]) j w .targetingMatch := by
  cases h with
  | matched hi =>
    obtain ⟨j, w, hj, hfirst⟩ := exists_firstAt (p := (·.Fits (Context.merge [c, e])))
      hi.found (hi.holds.merge e)
    exact ⟨j, w, hj, .matched hfirst⟩

end FlagDefinition

/-! ## Flags in variables -/

/-- A definition is read back from the text of its document. -/
theorem FlagDefinition.ofText?_render {f : FlagDefinition} {j : Json}
    (h : FlagDefinition.ofDocument? (.ofJson j) = some f) :
    FlagDefinition.ofText? j.render = some f := by
  rw [ofText?, Document.ofText?_render]
  exact h

namespace VariableSource

/-- A provider over variables always answers, from the variables as they are, and changes nothing; a
variable without a definition is logged. -/
theorem on_resolve (source : VariableSource) (naming : VariableNaming) (t : FlagType)
    (flag : String) (default : t.Value) (c : Context) (s : Store) :
    ∃ s₁, ((source.provider naming).resolve t flag default c).on s =
        (.ok (answer naming (source.lookup s) flag t default c), s₁) ∧ s.Logged s₁ := by
  have hget : (get : Eval Store).on s = (.ok s, s) := rfl
  dsimp only [provider]
  rw [Eval.on_bind_ok hget]
  split
  · exact ⟨_, rfl, Store.logged_report .debug _ _ s⟩
  · exact ⟨s, rfl, [], by rw [List.append_nil]⟩

theorem answer_of_definition {naming : VariableNaming} {lookup : Lookup} {flag raw : String}
    {f : FlagDefinition} (hraw : lookup (naming.variableOf flag) = some raw)
    (hread : FlagDefinition.ofText? raw = some f) (t : FlagType) (default : t.Value) (c : Context) :
    answer naming lookup flag t default c = f.answer flag t default c := by
  rw [answer, hraw]
  simp only [hread]

/-- A flag in a variable is answered with the value of the variant that its definition selects. No
other one is tried if that value has another type, and it is an error if none is selected. With more
contexts behind it, a context that has a match has one that does not stand further back. -/
theorem first_match_served (source : VariableSource) (naming : VariableNaming) {s : Store}
    {flag raw : String} {f : FlagDefinition}
    (hraw : source.lookup s (naming.variableOf flag) = some raw)
    (hread : FlagDefinition.ofText? raw = some f) :
    (∀ (t : FlagType) (default : t.Value) (c : Context), ∃ r s₁,
      ((source.provider naming).resolve t flag default c).on s = (.ok r, s₁) ∧ s.Logged s₁ ∧
      (∀ i v reason, f.Selects c i v reason →
        (∀ value, t.ofJson? v.value = some value →
          r = ⟨value, some v.name, some reason, none, .empty⟩) ∧
        (t.ofJson? v.value = none → r = .failed default ⟨.typeMismatch,
          some ("variant " ++ Text.quote v.name ++ " is not of type " ++ t.name)⟩)) ∧
      ((∀ w ∈ f.variants, ¬w.Fits c ∧ f.defaultVariant ≠ some w.name) →
        r = .failed default ⟨.general,
          some ("default variant of flag " ++ Text.quote flag ++ " is not defined")⟩)) ∧
    ∀ c e i v, f.Selects c i v .targetingMatch →
      ∃ j w, j ≤ i ∧ f.Selects (Context.merge [c, e]) j w .targetingMatch := by
  refine ⟨fun t default c => ?_, fun c e i v h => h.merge e⟩
  obtain ⟨s₁, hrun, hlogged⟩ := source.on_resolve naming t flag default c s
  rw [answer_of_definition hraw hread] at hrun
  refine ⟨_, s₁, hrun, hlogged, fun i v reason hselects => ?_, fun hnone => ?_⟩
  · rw [FlagDefinition.answer, FlagDefinition.choose?_eq_some_iff.2 ⟨i, hselects⟩]
    refine ⟨fun value hvalue => ?_, fun hvalue => ?_⟩
    · simp only [hvalue]
    · simp only [hvalue]
      rfl
  · rw [FlagDefinition.answer, FlagDefinition.choose?_eq_none hnone]
    rfl

/-- A store in which a variable holds a document. -/
def holding (j : Json) : Store :=
  { Store.fresh 0 with environments := fun _ => Table.empty.insert "f" j.render }

theorem lookup_holding (j : Json) :
    (VariableSource.mk 0 false).lookup (holding j) (VariableNaming.variableOf {} "f") =
      some j.render := rfl

/-- A definition of a flag with a variant for one user and one, of another type, for a plan. -/
def forPlan : Json :=
  .object [("defaultVariant", .text "off"), ("variants", .array [
    .object [("name", .text "alice"), ("value", .bool true), ("targetingKey", .text "alice")],
    .object [("name", .text "pro"), ("value", .text "yes"), ("criteria", .array [
      .object [("key", .text "plan"), ("value", .text "pro")]])],
    .object [("name", .text "off"), ("value", .bool false)]])]

theorem first_match_served_mismatch :
    let alice : VariantDefinition := ⟨"alice", .bool true, some "alice", []⟩
    let pro : VariantDefinition := ⟨"pro", .text "yes", none, [⟨"plan", .text "pro"⟩]⟩
    let f : FlagDefinition := ⟨some "off", [alice, pro, ⟨"off", .bool false, none, []⟩]⟩
    let c : Context := ⟨none, Table.empty.insert "plan" (.text "pro")⟩
    f.Selects c 1 pro .targetingMatch ∧
      (∃ s, (((VariableSource.mk 0 false).provider {}).resolve .boolean "f" true c).on
        (holding forPlan) = (.ok (.failed true ⟨.typeMismatch,
          some ("variant " ++ Text.quote "pro" ++ " is not of type " ++ FlagType.boolean.name)⟩),
          s)) ∧
      ∃ j w, j ≤ 1 ∧ f.Selects (Context.merge [c, ⟨some "alice", .empty⟩]) j w .targetingMatch := by
  intro alice pro f c
  have hread : FlagDefinition.ofText? forPlan.render = some f := FlagDefinition.ofText?_render rfl
  have hselects : f.Selects c 1 pro .targetingMatch := by
    refine .matched ⟨rfl, (VariantDefinition.isMatch_iff pro c).1 rfl, fun j hj b hb => ?_⟩
    obtain rfl : j = 0 := by omega
    cases hb
    exact fun hfits => absurd (hfits.targetingKey "alice" rfl) (by decide)
  obtain ⟨hanswers, hmerged⟩ := first_match_served ⟨0, false⟩ {} (lookup_holding forPlan) hread
  obtain ⟨r, s, hrun, -, hserved, -⟩ := hanswers .boolean true c
  rw [(hserved 1 pro .targetingMatch hselects).2 rfl] at hrun
  exact ⟨hselects, ⟨s, hrun⟩, hmerged c ⟨some "alice", .empty⟩ 1 pro hselects⟩

end VariableSource

end FeatureFlags
