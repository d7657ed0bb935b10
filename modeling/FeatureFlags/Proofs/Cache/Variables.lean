import FeatureFlags.Proofs.Cache.Recall
import FeatureFlags.Proofs.Context.Flat
import FeatureFlags.Proofs.Targeting.Selection

/-!
# Flags from variables behind a cache

Which variant is served depends on the targeting key and on the attributes apart, but a cache has
one text for both: a context without a key, in which an attribute has the name and the value of one,
is taken for a context with that key. Main statement: this is the only way in which a cache mixes up
contexts, provided that their digests do not collide (`VariableSource.cached_same_but_flat`).
-/
namespace FeatureFlags

/-! ## Targeting -/

section

variable {c c' : Context}

theorem Criterion.holds_alike (h : c.Alike c') (criterion : Criterion) :
    criterion.holds c = criterion.holds c' := by
  have hform := h.attributes criterion.key
  rw [holds, holds]
  cases ha : c.attribute? criterion.key with
  | none =>
    rw [ha, Option.map_none, eq_comm, Option.map_eq_none_iff] at hform
    rw [hform]
  | some a =>
    rw [ha, Option.map_some, eq_comm, Option.map_eq_some_iff] at hform
    obtain ⟨a', ha', hjson⟩ := hform
    rw [ha']
    dsimp only
    rw [Attribute.matchesJson_eq, Attribute.matchesJson_eq, hjson]

theorem VariantDefinition.isMatch_alike (h : c.Alike c') (v : VariantDefinition) :
    v.isMatch c = v.isMatch c' := by
  have hcriteria : v.criteria.all (·.holds c) = v.criteria.all (·.holds c') := by
    simp only [Criterion.holds_alike h]
  rw [isMatch, isMatch, h.targetingKey, hcriteria]

namespace FlagDefinition

variable {f : FlagDefinition} {flag : String} {t : FlagType} {default default' : t.Value}

theorem answer_alike (h : c.Alike c') : f.answer flag t default c = f.answer flag t default c' := by
  have hchoose : f.choose? c = f.choose? c' := by
    simp only [choose?, VariantDefinition.isMatch_alike h]
  rw [answer, answer, hchoose]

/-- The default does not matter for an answer without an error. -/
theorem answer_default (hvalid : (f.answer flag t default c).error = none) :
    f.answer flag t default c = f.answer flag t default' c := by
  rw [answer] at hvalid
  rw [answer, answer]
  rcases hv : f.choose? c with _ | ⟨v, reason⟩
  · rw [hv] at hvalid
    cases hvalid
  · rw [hv] at hvalid
    dsimp only at hvalid ⊢
    cases hj : t.ofJson? v.value with
    | none =>
      rw [hj] at hvalid
      cases hvalid
    | some value => rfl

end FlagDefinition

end

namespace VariableSource

section

variable {naming : VariableNaming} {lookup : Lookup} {flag : String} {t : FlagType}
  {default default' : t.Value} {c c' : Context}

theorem answer_alike (h : c.Alike c') :
    answer naming lookup flag t default c = answer naming lookup flag t default c' := by
  rw [answer, answer]
  simp only [FlagDefinition.answer_alike h]

theorem answer_default (hvalid : (answer naming lookup flag t default c).error = none) :
    answer naming lookup flag t default c = answer naming lookup flag t default' c := by
  rw [answer] at hvalid
  rw [answer, answer]
  cases hraw : lookup (naming.variableOf flag) with
  | none =>
    rw [hraw] at hvalid
    cases hvalid
  | some raw =>
    rw [hraw] at hvalid
    dsimp only at hvalid ⊢
    cases hf : FlagDefinition.ofText? raw with
    | none =>
      rw [hf] at hvalid
      cases hvalid
    | some f =>
      rw [hf] at hvalid
      exact FlagDefinition.answer_default hvalid

end

/-! ## Behind a cache -/

/-- The answer from variables to a question. -/
def reply (naming : VariableNaming) (lookup : Lookup) (q : Question) : Resolution q.type.Value :=
  answer naming lookup q.flag q.type q.default q.context

theorem answers (source : VariableSource) (naming : VariableNaming) (s : Store) :
    (source.provider naming).Answers s (reply naming (source.lookup s)) := by
  intro s' haside q
  have hlookup : source.lookup s' = source.lookup s := by
    unfold lookup
    rw [haside.environments]
  rw [← hlookup]
  exact on_resolve source naming q.type q.flag q.default q.context s'

end VariableSource

/-- The flag of a question is asked for in a context, with the type of the question. -/
def Question.AskedIn (q : Question) (earlier : List (Nat × Question)) (c : Context) : Prop :=
  c = q.context ∨ ∃ time default, (time, ⟨q.type, q.flag, default, c⟩) ∈ earlier

namespace VariableSource

/-- Behind a cache of its own, flags from variables are served as they are in this context, apart
from the reason, if no attribute is mixed up with the targeting key. Otherwise they are served as
they are in a context of the same flat form that was asked about before. -/
theorem cached_same_but_flat (source : VariableSource) (naming : VariableNaming) (cache : Nat)
    {s : Store} {settings : CacheSettings} (hempty : s.caches cache = .ofSettings settings)
    (earlier : List (Nat × Question)) (now : Nat) (q : Question)
    (hdigest : ∀ c, q.AskedIn earlier c →
      Md5.hex c.canonicalText = Md5.hex q.context.canonicalText →
      c.canonicalText = q.context.canonicalText) :
    let p := source.provider naming
    ∃ r, (Provider.cached Md5.hex cache p).outcome s earlier now q = .ok r ∧
      (∃ c, q.AskedIn earlier c ∧ c.flatten = q.context.flatten ∧
        ∃ own, p.outcome s earlier now { q with context := c } = .ok own ∧ r.SameBut own) ∧
      ((∀ c, q.AskedIn earlier c → c.Separate) →
        ∃ own, p.outcome s earlier now q = .ok own ∧ r.SameBut own) := by
  intro p
  have hp := answers source naming s
  have hown := hp.outcome earlier now q
  obtain ⟨r, hrun, hrecalled⟩ := Provider.cached_recalls Cache.plain_hex hp hempty earlier now q
  refine ⟨r, hrun, ?_⟩
  rcases hrecalled with rfl | ⟨time, default, c, hmem, hsame, hvalid, rfl⟩
  · exact ⟨⟨q.context, .inl rfl, rfl, _, hown, .inl rfl⟩, fun _ => ⟨_, hown, .inl rfl⟩⟩
  · have hasked : q.AskedIn earlier c := .inr ⟨time, default, hmem⟩
    have hflat : c.flatten = q.context.flatten :=
      Context.flatten_of_canonicalText (hdigest c hasked hsame.symm)
    have hdefault : reply naming (source.lookup s) ⟨q.type, q.flag, default, c⟩ =
        reply naming (source.lookup s) { q with context := c } := answer_default hvalid
    refine ⟨⟨c, hasked, hflat, _, hp.outcome earlier now { q with context := c }, ?_⟩, ?_⟩
    · exact .inr (by rw [hdefault])
    · intro hseparate
      have halike : c.Alike q.context :=
        Context.alike_of_flatten (hseparate c hasked) (hseparate q.context (.inl rfl)) hflat
      have hcontext : reply naming (source.lookup s) { q with context := c } =
          reply naming (source.lookup s) q := answer_alike halike
      exact ⟨_, hown, .inr (by rw [hdefault, hcontext])⟩

/-- A definition of a flag that is on for one user, as it is kept in a variable. -/
def forAlice : Json :=
  .object [("defaultVariant", .text "off"), ("variants", .array [
    .object [("name", .text "on"), ("value", .bool true), ("targetingKey", .text "alice")],
    .object [("name", .text "off"), ("value", .bool false)]])]

/-- A store in which one variable holds the definition. -/
def oneVariable : Store :=
  { Store.fresh 0 with environments := fun _ => Table.empty.insert "f" forAlice.render }

theorem reply_oneVariable (c : Context) :
    reply {} ((VariableSource.mk 0 false).lookup oneVariable) ⟨.boolean, "f", false, c⟩ =
      (FlagDefinition.mk (some "off") [⟨"on", .bool true, some "alice", []⟩,
        ⟨"off", .bool false, none, []⟩]).answer "f" .boolean false c := by
  have hraw : (VariableSource.mk 0 false).lookup oneVariable (VariableNaming.variableOf {} "f") =
      some forAlice.render := rfl
  have hread : FlagDefinition.ofText? forAlice.render = some ⟨some "off",
      [⟨"on", .bool true, some "alice", []⟩, ⟨"off", .bool false, none, []⟩]⟩ := by
    rw [FlagDefinition.ofText?, Document.ofText?_render]
    rfl
  rw [reply, answer, hraw]
  simp only [hread]

theorem cached_same_but_flat_apart :
    let p := (VariableSource.mk 0 false).provider {}
    let alice : Context := ⟨some "alice", .empty⟩
    let other : Context := ⟨none, Table.empty.insert "age" (.int 42)⟩
    let earlier : List (Nat × Question) :=
      [(0, ⟨.boolean, "f", false, alice⟩), (5, ⟨.boolean, "f", false, other⟩)]
    ∃ r own, (Provider.cached Md5.hex 0 p).outcome oneVariable earlier 9
        ⟨.boolean, "f", true, alice⟩ = .ok r ∧
      p.outcome oneVariable earlier 9 ⟨.boolean, "f", true, alice⟩ = .ok own ∧ r.SameBut own := by
  intro p alice other earlier
  have hasked : ∀ c, Question.AskedIn ⟨.boolean, "f", true, alice⟩ earlier c →
      c = alice ∨ c = other := by
    rintro c (rfl | ⟨time, default, hmem⟩)
    · exact .inl rfl
    · rcases List.mem_cons.1 hmem with h | hmem
      · cases h
        exact .inl rfl
      · cases List.mem_singleton.1 hmem
        exact .inr rfl
  have hempty : oneVariable.caches 0 = .ofSettings {} := rfl
  have hapart : Md5.hex other.canonicalText ≠ Md5.hex alice.canonicalText := by decide +kernel
  obtain ⟨r, hr, -, hown⟩ := cached_same_but_flat ⟨0, false⟩ {} 0 hempty earlier 9
    ⟨.boolean, "f", true, alice⟩ fun c hc hdigest => by
      rcases hasked c hc with rfl | rfl
      · rfl
      · exact absurd hdigest hapart
  obtain ⟨own, hask, hsame⟩ := hown fun c hc a ha => by
    rcases hasked c hc with rfl | rfl
    · cases ha
    · rw [Context.attribute?, Table.get?_insert, if_neg (by decide)] at ha
      cases ha
  exact ⟨r, own, hr, hask, hsame⟩

/-- A context without a key is served the variant of a user whose key is one of its attributes. -/
theorem cached_serves_other_context :
    let p := (VariableSource.mk 0 false).provider {}
    let alice : Context := ⟨some "alice", .empty⟩
    let posing : Context := ⟨none, Table.empty.insert "targetingKey" (.text "alice")⟩
    let earlier : List (Nat × Question) := [(0, ⟨.boolean, "f", false, alice⟩)]
    let q : Question := ⟨.boolean, "f", false, posing⟩
    alice.canonicalText = posing.canonicalText ∧
      (Provider.cached Md5.hex 0 p).outcome oneVariable earlier 0 q =
        .ok ⟨true, some "on", some .cached, none, .empty⟩ ∧
      p.outcome oneVariable earlier 0 q = .ok ⟨false, some "off", some .default, none, .empty⟩ := by
  intro p alice posing earlier q
  have hanswers : p.Answers oneVariable _ := answers ⟨0, false⟩ {} oneVariable
  have hfirst : reply {} ((VariableSource.mk 0 false).lookup oneVariable)
      ⟨.boolean, "f", false, alice⟩ = ⟨true, some "on", some .targetingMatch, none, .empty⟩ :=
    (reply_oneVariable alice).trans rfl
  have hsecond : reply {} ((VariableSource.mk 0 false).lookup oneVariable) q =
      ⟨false, some "off", some .default, none, .empty⟩ := (reply_oneVariable posing).trans rfl
  have htext : alice.canonicalText = posing.canonicalText := rfl
  have hempty : oneVariable.caches 0 = .ofSettings {} := rfl
  refine ⟨htext, ?_, ?_⟩
  · exact Provider.cached_repeats hanswers hempty rfl hfirst rfl rfl (by rw [htext]) (by decide)
      false
  · rw [hanswers.outcome earlier 0 q, hsecond]

end VariableSource

end FeatureFlags
