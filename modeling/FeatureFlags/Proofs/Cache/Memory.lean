import FeatureFlags.Memory.Provider
import FeatureFlags.Proofs.Cache.Recall

/-!
# Flags from memory behind a cache

An answer from memory depends on the caller's default where it has an error and where the flag is
disabled. Errors are not cached, but a disabled flag answers without one, so that a caller may be
served the default of an earlier caller. Main statement: this is the only way in which a cache shows
beside the reason of an answer (`Memory.cached_same_but_default`).
-/
namespace FeatureFlags

namespace MemoryFlag

variable {flags : Table MemoryFlag} {flag : String} {t : FlagType} {default default' : t.Value}
  {c c' : Context}

theorem answer_context {f : MemoryFlag} (hfixed : f.select = none) :
    f.answer flag t default c = f.answer flag t default c' := by
  have hchoose : f.choose c = f.choose c' := by
    rw [choose, choose, hfixed]
    rfl
  rw [answer, answer, hchoose]

/-- Without a selection the context does not matter. -/
theorem answerFrom_context (hfixed : ∀ f, flags.get? flag = some f → f.select = none) :
    answerFrom flags flag t default c = answerFrom flags flag t default c' := by
  rw [answerFrom, answerFrom]
  cases hf : flags.get? flag with
  | none => rfl
  | some f => exact answer_context (hfixed f hf)

theorem answer_default {f : MemoryFlag} (henabled : f.enabled = true)
    (hvalid : (f.answer flag t default c).error = none) :
    f.answer flag t default c = f.answer flag t default' c := by
  rw [answer, if_pos henabled] at hvalid
  rw [answer, answer, if_pos henabled, if_pos henabled]
  dsimp only at hvalid ⊢
  cases hv : f.variants.get? (f.choose c).1 with
  | none =>
    rw [hv] at hvalid
    cases hvalid
  | some j =>
    rw [hv] at hvalid
    dsimp only at hvalid ⊢
    cases hj : t.ofJson? j with
    | none =>
      rw [hj] at hvalid
      cases hvalid
    | some value => rfl

/-- The default does not matter for an answer without an error, unless the flag is disabled. -/
theorem answerFrom_default (henabled : ∀ f, flags.get? flag = some f → f.enabled = true)
    (hvalid : (answerFrom flags flag t default c).error = none) :
    answerFrom flags flag t default c = answerFrom flags flag t default' c := by
  rw [answerFrom] at hvalid
  rw [answerFrom, answerFrom]
  cases hf : flags.get? flag with
  | none =>
    rw [hf] at hvalid
    cases hvalid
  | some f =>
    rw [hf] at hvalid
    exact answer_default (henabled f hf) hvalid

end MemoryFlag

namespace Memory

/-- The answer of a table of flags to a question. -/
def answer (flags : Table MemoryFlag) (q : Question) : Resolution q.type.Value :=
  MemoryFlag.answerFrom flags q.flag q.type q.default q.context

theorem answers (owner : Nat) (s : Store) :
    (provider owner).Answers s (answer (s.flags owner)) := by
  intro s' haside q
  refine ⟨s', ?_, [], by simp⟩
  rw [← haside.flags]
  rfl

/-- Behind a cache of its own, flags from memory without selections are served as they are, apart
from the reason, if they are not disabled. A disabled flag is served with the default of this call
or of an earlier one. -/
theorem cached_same_but_default (owner cache : Nat) {s : Store} {settings : CacheSettings}
    (hempty : s.caches cache = .ofSettings settings)
    (hfixed : ∀ flag f, (s.flags owner).get? flag = some f → f.select = none)
    (earlier : List (Nat × Question)) (now : Nat) (q : Question) :
    let p := provider owner
    ∃ r, (Provider.cached Md5.hex cache p).outcome s earlier now q = .ok r ∧
      (∃ default,
        (default = q.default ∨
          ∃ time c, (time, ⟨q.type, q.flag, default, c⟩) ∈ earlier) ∧
        ∃ own, p.outcome s earlier now { q with default } = .ok own ∧ r.SameBut own) ∧
      ((∀ f, (s.flags owner).get? q.flag = some f → f.enabled = true) →
        ∃ own, p.outcome s earlier now q = .ok own ∧ r.SameBut own) := by
  intro p
  have hp := answers owner s
  obtain ⟨r, hrun, hrecalled⟩ := Provider.cached_recalls Cache.plain_hex hp hempty earlier now q
  refine ⟨r, hrun, ?_⟩
  rcases hrecalled with rfl | ⟨time, default, c, hmem, -, hvalid, rfl⟩
  · have hown := hp.outcome earlier now q
    exact ⟨⟨q.default, .inl rfl, _, hown, .inl rfl⟩, fun _ => ⟨_, hown, .inl rfl⟩⟩
  · have hcontext : answer (s.flags owner) ⟨q.type, q.flag, default, c⟩ =
        answer (s.flags owner) { q with default } :=
      MemoryFlag.answerFrom_context (hfixed q.flag)
    refine ⟨⟨default, .inr ⟨time, c, hmem⟩, _, hp.outcome earlier now { q with default }, ?_⟩, ?_⟩
    · exact .inr (by rw [hcontext])
    · intro henabled
      have hdefault : answer (s.flags owner) { q with default } = answer (s.flags owner) q :=
        MemoryFlag.answerFrom_default henabled (by rw [hcontext] at hvalid; exact hvalid)
      exact ⟨_, hp.outcome earlier now q, .inr (by rw [hcontext, hdefault])⟩

/-- A flag with one variant. -/
def onFlag (enabled : Bool) : MemoryFlag where
  defaultVariant := "on"
  variants := Table.empty.insert "on" (.bool true)
  enabled := enabled
  select := none
  metadata := .empty

/-- A store in which there is one flag. -/
def oneFlag (enabled : Bool) : Store :=
  { Store.fresh 0 with flags := fun _ => Table.empty.insert "f" (onFlag enabled) }

theorem cached_same_but_default_enabled :
    let p := provider 0
    let earlier : List (Nat × Question) :=
      [(0, ⟨.boolean, "f", true, .empty⟩), (5, ⟨.boolean, "f", false, ⟨some "alice", .empty⟩⟩)]
    ∃ r own, (Provider.cached Md5.hex 0 p).outcome (oneFlag true) earlier 9
        ⟨.boolean, "f", false, .empty⟩ = .ok r ∧
      p.outcome (oneFlag true) earlier 9 ⟨.boolean, "f", false, .empty⟩ = .ok own ∧
      r.SameBut own := by
  intro p earlier
  have hflag : ∀ flag f, ((oneFlag true).flags 0).get? flag = some f →
      f.select = none ∧ f.enabled = true := by
    intro flag f hf
    simp only [oneFlag, Table.get?_insert, Table.get?_empty] at hf
    split at hf
    · cases hf
      exact ⟨rfl, rfl⟩
    · cases hf
  have hempty : (oneFlag true).caches 0 = .ofSettings {} := rfl
  obtain ⟨r, hr, -, hown⟩ := cached_same_but_default 0 0 hempty
    (fun flag f hf => (hflag flag f hf).1) earlier 9 ⟨.boolean, "f", false, .empty⟩
  obtain ⟨own, hask, hsame⟩ := hown fun f hf => (hflag "f" f hf).2
  exact ⟨r, own, hr, hask, hsame⟩

/-- A disabled flag that is asked for with two defaults: the second caller gets the first one's. -/
theorem cached_serves_other_default :
    let p := provider 0
    let earlier : List (Nat × Question) := [(0, ⟨.boolean, "f", true, .empty⟩)]
    let q : Question := ⟨.boolean, "f", false, .empty⟩
    (Provider.cached Md5.hex 0 p).outcome (oneFlag false) earlier 0 q =
        .ok ⟨true, none, some .cached, none, .empty⟩ ∧
      p.outcome (oneFlag false) earlier 0 q = .ok ⟨false, none, some .disabled, none, .empty⟩ := by
  intro p earlier q
  have hanswers : p.Answers (oneFlag false) _ := answers 0 (oneFlag false)
  have hfirst : answer ((oneFlag false).flags 0) ⟨.boolean, "f", true, .empty⟩ =
      ⟨true, none, some .disabled, none, .empty⟩ := rfl
  have hempty : (oneFlag false).caches 0 = .ofSettings {} := rfl
  refine ⟨?_, hanswers.outcome earlier 0 q⟩
  exact Provider.cached_repeats hanswers hempty rfl hfirst rfl rfl rfl (by decide) false

end Memory

end FeatureFlags
