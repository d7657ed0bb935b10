import FeatureFlags.Proofs.Cache.Contents
import FeatureFlags.Proofs.Context.Flat

/-!
# What a cache key says

The key of a result is the key of the flag, the name of the type and a digest of the context, with
a separator between them that the key of the flag may hold itself. Main statement: apart from
collisions of the digest, two keys are the same just if the flags, the types and the flat forms of
the contexts are (`Cache.key_identifies`).
-/
namespace FeatureFlags

namespace Context

variable {c c' : Context}

theorem canonicalText_of_flatten (h : c.flatten = c'.flatten) :
    c.canonicalText = c'.canonicalText := by
  rw [canonicalText, h, canonicalText]

theorem canonicalText_eq_iff : c.canonicalText = c'.canonicalText ↔ c.flatten = c'.flatten :=
  ⟨flatten_of_canonicalText, canonicalText_of_flatten⟩

end Context

namespace Cache

/-- Keys under any digest say what the digests of the contexts say. -/
theorem key_eq_iff_digest {digest : String → String} (hplain : Plain digest) {flag flag' : String}
    {t t' : FlagType} {c c' : Context} : key digest flag t c = key digest flag' t' c' ↔
      flag = flag' ∧ t = t' ∧ digest c.canonicalText = digest c'.canonicalText := by
  constructor
  · exact key_inj hplain
  · rintro ⟨rfl, rfl, hdigest⟩
    rw [key, hdigest, key]

/-- Where the digests of two contexts do not collide, keys are the same only for the same flag, the
same type and the same flat form, down to the kind of a number and the sign of a zero. -/
theorem key_identifies (flag flag' : String) (t t' : FlagType) (c c' : Context)
    (hdigest : Md5.hex c.canonicalText = Md5.hex c'.canonicalText →
      c.canonicalText = c'.canonicalText) :
    key Md5.hex flag t c = key Md5.hex flag' t' c' ↔
      flag = flag' ∧ t = t' ∧ c.flatten = c'.flatten := by
  have htext : Md5.hex c.canonicalText = Md5.hex c'.canonicalText ↔ c.flatten = c'.flatten := by
    rw [← Context.canonicalText_eq_iff]
    exact ⟨hdigest, congrArg Md5.hex⟩
  rw [key_eq_iff_digest plain_hex, htext]

/-- A user is told from a user of the same name in a flag whose key goes on as a cache key does, and
a number from the same number of another kind, but not a targeting key from an attribute. -/
theorem key_identifies_apart :
    let alice : Context := ⟨some "alice", .empty⟩
    let posing : Context := ⟨none, Table.empty.insert "targetingKey" (.text "alice")⟩
    let whole : Context := ⟨none, Table.empty.insert "n" (.int 1)⟩
    let float : Context := ⟨none, Table.empty.insert "n" (.float (Double.ofInt 1))⟩
    let long : String := "f" ++ separator ++ FlagType.string.name
    key Md5.hex long .string alice = key Md5.hex long .string posing ∧
      key Md5.hex long .string alice ≠ key Md5.hex "f" .string alice ∧
      key Md5.hex long .string whole ≠ key Md5.hex long .string float := by
  intro alice posing whole float long
  have hapart : Md5.hex whole.canonicalText ≠ Md5.hex float.canonicalText := by decide +kernel
  refine ⟨?_, ?_, ?_⟩
  · exact (key_identifies long long .string .string alice posing fun _ => rfl).2 ⟨rfl, rfl, rfl⟩
  · intro h
    have hflag := ((key_identifies long "f" .string .string alice alice fun _ => rfl).1 h).1
    exact absurd hflag (by decide)
  · intro h
    have hflat := ((key_identifies long long .string .string whole float (absurd · hapart)).1 h).2.2
    exact hapart (congrArg Md5.hex (Context.canonicalText_of_flatten hflat))

end Cache

end FeatureFlags
