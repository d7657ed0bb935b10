import FeatureFlags.Cache.Provider
import FeatureFlags.Digest.Md5
import FeatureFlags.Table.Lookup

/-!
# What a cache holds

A cache holds results under keys. No operation makes up a result: what a cache holds afterwards it
held before, or it was just put in. A key names the flag, the type and the digest of the context, so
that what was put in for one type is never read as another one.
-/
namespace FeatureFlags

/-- A value that comes back from its JSON form is the same value. A float that is not finite is the
only one that does not come back. -/
theorem FlagType.eq_of_ofJson?_toJson {t : FlagType} {v w : t.Value}
    (h : t.ofJson? (t.toJson v) = some w) : w = v := by
  cases t with
  | boolean | string | integer | object => exact (Option.some.inj h).symm
  | float =>
    by_cases hv : v.isFinite = true
    · have hnumber : Json.Number.ofDouble? v = some (.float v hv) := dif_pos hv
      simp only [toJson, Json.ofDouble, hnumber] at h
      exact (Option.some.inj h).symm
    · have hnone : Json.Number.ofDouble? v = none := dif_neg hv
      simp only [toJson, Json.ofDouble, hnone] at h
      cases h

namespace Cache

/-! ## Keys -/

/-- A digest whose texts are free of the character that separates the parts of a key. -/
def Plain (digest : String → String) : Prop :=
  ∀ text, Char.ofNat 0 ∉ (digest text).toList

theorem hexDigit_plain (n : Nat) : Char.ofNat 0 ≠ Text.hexDigit n := by
  have hdigits : ∀ m < 16, Char.ofNat 0 ≠ "0123456789abcdef".toList.getD m '0' := by decide
  exact hdigits (n % 16) (Nat.mod_lt n (by decide))

theorem plain_hex : Plain Md5.hex := by
  intro text hmem
  rw [Md5.hex, String.toList_ofList] at hmem
  obtain ⟨b, -, hbyte⟩ := List.mem_flatMap.1 hmem
  rcases List.mem_cons.1 hbyte with h | hbyte
  · exact hexDigit_plain _ h
  · exact hexDigit_plain _ (List.mem_singleton.1 hbyte)

theorem name_plain (t : FlagType) : Char.ofNat 0 ∉ t.name.toList := by
  cases t <;> decide

/-- A list is cut in one way only at the last place where a member stands. -/
theorem last_inj {α : Type} {a : α} {l l' r r' : List α} (hr : a ∉ r) (hr' : a ∉ r')
    (h : l ++ a :: r = l' ++ a :: r') : l = l' ∧ r = r' := by
  rcases List.append_eq_append_iff.1 h with ⟨m, hl, htail⟩ | ⟨m, hl, htail⟩
  · cases m with
    | nil => exact ⟨by rw [hl, List.append_nil], (List.cons.inj htail).2⟩
    | cons b m =>
      have hmem : a ∈ r := by
        rw [(List.cons.inj htail).2]
        exact List.mem_append_right m List.mem_cons_self
      exact absurd hmem hr
  · cases m with
    | nil => exact ⟨by rw [hl, List.append_nil], (List.cons.inj htail).2.symm⟩
    | cons b m =>
      have hmem : a ∈ r' := by
        rw [(List.cons.inj htail).2]
        exact List.mem_append_right m List.mem_cons_self
      exact absurd hmem hr'

theorem toList_key (digest : String → String) (flag : String) (t : FlagType) (c : Context) :
    (key digest flag t c).toList = (flag.toList ++ Char.ofNat 0 :: t.name.toList) ++
      Char.ofNat 0 :: (digest c.canonicalText).toList := by
  simp [key, separator]

theorem name_inj {t t' : FlagType} (h : t.name = t'.name) : t = t' := by
  revert h
  cases t <;> cases t' <;> decide

/-- The parts of a key can be told from it, whatever characters the key of the flag holds. -/
theorem key_inj {digest : String → String} (hplain : Plain digest) {flag flag' : String}
    {t t' : FlagType} {c c' : Context} (h : key digest flag t c = key digest flag' t' c') :
    flag = flag' ∧ t = t' ∧ digest c.canonicalText = digest c'.canonicalText := by
  have hlists := congrArg String.toList h
  rw [toList_key, toList_key] at hlists
  obtain ⟨hfront, hdigest⟩ := last_inj (hplain _) (hplain _) hlists
  obtain ⟨hflag, hname⟩ := last_inj (name_plain t) (name_plain t') hfront
  have hsame : t = t' := name_inj (String.toList_inj.1 hname)
  exact ⟨String.toList_inj.1 hflag, hsame, String.toList_inj.1 hdigest⟩

/-! ## Results under keys -/

/-- The cache holds a result under a key. -/
def Holds (c : Cache) (key : String) (detail : Resolution Json) : Prop :=
  ∃ e, c.entries.get? key = some e ∧ e.detail = detail

variable {c : Cache} {key k : String} {detail d : Resolution Json} {now : Nat}

theorem not_holds_ofSettings (settings : CacheSettings) : ¬(ofSettings settings).Holds k d := by
  rintro ⟨e, he, -⟩
  cases he

theorem holds_remove (h : (c.remove key).Holds k d) : c.Holds k d := by
  obtain ⟨e, he, hd⟩ := h
  rcases hfound : c.entries.get? key with _ | e'
  · rw [remove, hfound] at he
    exact ⟨e, he, hd⟩
  · rw [remove, hfound] at he
    have hkept := Table.get?_erase c.entries key k
    by_cases hk : k = key
    · rw [if_pos hk] at hkept
      rw [hkept] at he
      cases he
    · rw [if_neg hk] at hkept
      exact ⟨e, hkept ▸ he, hd⟩

theorem get?_of_get?_shrink {room : Nat} {recency : List (Nat × String)} {entries : Table Entry}
    {e : Entry} (h : (shrink room recency entries).2.get? k = some e) :
    entries.get? k = some e := by
  induction recency generalizing entries with
  | nil => exact h
  | cons use rest ih =>
    rw [shrink] at h
    split at h
    · have herased := ih h
      rw [Table.get?_erase] at herased
      split at herased
      · cases herased
      · exact herased
    · exact h

/-- To look something up adds nothing, also when it makes an entry the most recent one. -/
theorem holds_get? (h : (c.get? key now).2.Holds k d) : c.Holds k d := by
  unfold get? at h
  split at h
  · rcases hfound : c.entries.get? key with _ | e'
    · rw [hfound] at h
      exact h
    · rw [hfound] at h
      dsimp only at h
      split at h
      · exact holds_remove h
      · obtain ⟨e, he, hd⟩ := h
        rw [Table.get?_insert] at he
        by_cases hk : k = key
        · rw [if_pos hk] at he
          subst hk
          exact ⟨e', hfound, by rw [← hd, ← Option.some.inj he]⟩
        · rw [if_neg hk] at he
          exact ⟨e, he, hd⟩
  · exact h

/-- What is found was held under the key. -/
theorem holds_of_get? (h : (c.get? key now).1 = some d) : c.Holds key d := by
  unfold get? at h
  split at h
  · rcases hfound : c.entries.get? key with _ | e
    · rw [hfound] at h
      cases h
    · rw [hfound] at h
      dsimp only at h
      split at h
      · cases h
      · exact ⟨e, hfound, Option.some.inj h⟩
  · cases h

/-- What is held after an insertion was held before, or is the new result, which has no error. -/
theorem holds_insert (h : (c.insert key detail now).Holds k d) :
    c.Holds k d ∨ k = key ∧ d = detail ∧ detail.error = none := by
  unfold insert at h
  split at h
  next hkeep =>
    have hvalid : detail.error = none := by
      rw [Bool.and_eq_true, Bool.not_eq_true', Resolution.isError] at hkeep
      exact Option.not_isSome_iff_eq_none.1 (ne_true_of_eq_false hkeep.2)
    obtain ⟨e, he, hd⟩ := h
    have hadded := get?_of_get?_shrink he
    rw [Table.get?_insert] at hadded
    by_cases hk : k = key
    · rw [if_pos hk] at hadded
      have hdetail : detail = d := by rw [← hd, ← Option.some.inj hadded]
      exact .inr ⟨hk, hdetail.symm, hvalid⟩
    · rw [if_neg hk] at hadded
      exact .inl (holds_remove ⟨e, hadded, hd⟩)
  · exact .inl h

theorem get?_ofSettings (settings : CacheSettings) (key : String) (now : Nat) :
    (ofSettings settings).get? key now = (none, ofSettings settings) := by
  unfold get?
  split
  · rfl
  · rfl

/-- What is put into an empty cache is found until its time is over. -/
theorem get?_insert_ofSettings {settings : CacheSettings} (hactive : settings.isActive = true)
    (hvalid : detail.error = none) {now' : Nat} (hfresh : now' - now < settings.ttl) :
    (((ofSettings settings).insert key detail now).get? key now').1 = some detail := by
  have hroom : ¬settings.maxSize < (Table.empty.insert key (Entry.mk detail now 1)).size := by
    have hpos : 0 < settings.maxSize := by simp_all [CacheSettings.isActive]
    change ¬settings.maxSize < 1
    omega
  have hinsert : (ofSettings settings).insert key detail now =
      ⟨settings, Table.empty.insert key ⟨detail, now, 1⟩, [(1, key)], 1⟩ := by
    have hkeep : (settings.isActive && !detail.isError) = true := by
      rw [hactive, Resolution.isError, hvalid]
      rfl
    have hshrink : shrink settings.maxSize [(1, key)]
        (Table.empty.insert key (Entry.mk detail now 1)) =
        ([(1, key)], Table.empty.insert key ⟨detail, now, 1⟩) := by
      rw [shrink, if_neg hroom]
    exact (if_pos hkeep).trans (by simp only [remove, ofSettings, Table.get?_empty, List.nil_append,
      Nat.zero_add, hshrink])
  rw [hinsert, get?, if_pos hactive]
  simp only [Table.get?_insert, if_true, if_neg (Nat.not_le.2 hfresh)]

/-! ## Answers that were put in -/

/-- The cache holds nothing but error-free answers with a property, each under the key of the flag,
the type and the context that it is for. -/
def Filled (digest : String → String) (c : Cache)
    (φ : (t : FlagType) → String → Context → Resolution t.Value → Prop) : Prop :=
  ∀ k d, c.Holds k d → ∃ (t : FlagType) (flag : String) (context : Context)
    (r : Resolution t.Value), k = Cache.key digest flag t context ∧ d = r.toJson ∧
      r.error = none ∧ φ t flag context r

variable {digest : String → String}
  {φ ψ : (t : FlagType) → String → Context → Resolution t.Value → Prop}

theorem Filled.mono (h : c.Filled digest φ)
    (sub : ∀ t flag context r, φ t flag context r → ψ t flag context r) : c.Filled digest ψ := by
  intro k d hd
  obtain ⟨t, flag, context, r, hk, hr, hvalid, hφ⟩ := h k d hd
  exact ⟨t, flag, context, r, hk, hr, hvalid, sub _ _ _ _ hφ⟩

theorem filled_ofSettings (settings : CacheSettings) : (ofSettings settings).Filled digest φ :=
  fun _ _ h => absurd h (not_holds_ofSettings settings)

theorem Filled.get? (h : c.Filled digest φ) (key : String) (now : Nat) :
    (c.get? key now).2.Filled digest φ := fun k d hd => h k d (holds_get? hd)

theorem Filled.insert (h : c.Filled digest φ) {t : FlagType} {flag : String} {context : Context}
    {r : Resolution t.Value} (hr : r.error = none → φ t flag context r) (now : Nat) :
    (c.insert (Cache.key digest flag t context) r.toJson now).Filled digest φ := by
  intro k d hd
  rcases holds_insert hd with hheld | ⟨hk, hdetail, hvalid⟩
  · exact h k d hheld
  · exact ⟨t, flag, context, r, hk, hdetail, hvalid, hr hvalid⟩

/-- What is found for a flag, a type and a context was put in for the flag, the type and a context
of the same digest. -/
theorem Filled.found (h : c.Filled digest φ) (hplain : Plain digest) {t : FlagType}
    {flag : String} {context : Context} {r : Resolution t.Value}
    (hfound : (c.get? (Cache.key digest flag t context) now).1.bind (typed? t) = some r) :
    ∃ context', digest context.canonicalText = digest context'.canonicalText ∧
      r.error = none ∧ φ t flag context' r := by
  obtain ⟨d, hd, htyped⟩ := Option.bind_eq_some_iff.1 hfound
  obtain ⟨t', flag', context', r', hkey, rfl, hvalid, hφ⟩ := h _ _ (holds_of_get? hd)
  obtain ⟨rfl, rfl, hdigest⟩ := key_inj hplain hkey
  obtain ⟨value, hvalue, rfl⟩ := Option.map_eq_some_iff.1 htyped
  obtain rfl := FlagType.eq_of_ofJson?_toJson hvalue
  exact ⟨context', hdigest, hvalid, hφ⟩

end Cache

end FeatureFlags
