import FeatureFlags.Proofs.Cache.Provider
import Mathlib.Data.List.Induction

/-!
# What a cached provider recalls

Questions are put to a provider that answers each of them in one way, through a cache of its own.
Main statement: what comes back is the answer to the question, or that to an earlier question for
the same flag and type in a context of the same digest, and then it was one without an error
(`Provider.cached_recalls`). Nothing is said of the caller's default here: it is no part of a key.
-/
namespace FeatureFlags

/-- What a provider is asked. -/
structure Question where
  type : FlagType
  flag : String
  default : type.Value
  context : Context

/-- The two stores differ in the time, what caches hold and the log alone. -/
def Store.Aside (s s' : Store) : Prop :=
  s' = { s with now := s'.now, caches := s'.caches, log := s'.log }

theorem Store.Aside.flags {s s' : Store} (h : s.Aside s') : s'.flags = s.flags := by
  rw [h]

theorem Store.Aside.environments {s s' : Store} (h : s.Aside s') :
    s'.environments = s.environments := by
  rw [h]

theorem Store.Aside.at {s s' : Store} (h : s.Aside s') (now : Nat) :
    s.Aside { s' with now := now } := by
  rw [Aside] at h ⊢
  rw [h]

theorem Store.Aside.logged {s s' s₁ : Store} (h : s.Aside s') (hlog : s'.Logged s₁) :
    s.Aside s₁ := by
  obtain ⟨records, rfl⟩ := hlog
  rw [Aside] at h ⊢
  rw [h]

theorem Store.Aside.cache {s s' : Store} (h : s.Aside s') (owner : Nat) (cache : Cache) :
    s.Aside { s' with caches := s'.caches.set owner cache } := by
  rw [Aside] at h ⊢
  rw [h]

/-- Everything but the reason is the same, and where the reason is not, the result was cached. -/
def Resolution.SameBut {α : Type} (r r' : Resolution α) : Prop :=
  r = r' ∨ r = { r' with reason := some .cached }

namespace Provider

def ask (p : Provider) (q : Question) : Eval (Resolution q.type.Value) :=
  p.resolve q.type q.flag q.default q.context

/-- Whatever caches hold and whatever the time is, every question has one answer. -/
def Answers (p : Provider) (s : Store) (answer : (q : Question) → Resolution q.type.Value) : Prop :=
  ∀ s', s.Aside s' → ∀ q, ∃ s₁, (p.ask q).on s' = (.ok (answer q), s₁) ∧ s'.Logged s₁

/-- The store behind questions, each asked at its time. -/
def asked (p : Provider) (s : Store) (questions : List (Nat × Question)) : Store :=
  questions.foldl (fun s q => ((p.ask q.2).on { s with now := q.1 }).2) s

/-- The outcome of one more question at a time. -/
def outcome (p : Provider) (s : Store) (questions : List (Nat × Question)) (now : Nat)
    (q : Question) : Except Crash (Resolution q.type.Value) :=
  ((p.ask q).on { p.asked s questions with now := now }).1

section

variable {digest : String → String} {owner : Nat} {p : Provider}
  {answer : (q : Question) → Resolution q.type.Value} {earlier : List (Nat × Question)}

/-- A result answers one of some questions, up to the default of the caller. -/
def Answered (answer : (q : Question) → Resolution q.type.Value) (earlier : List (Nat × Question))
    (t : FlagType) (flag : String) (c : Context) (r : Resolution t.Value) : Prop :=
  ∃ time default, (time, ⟨t, flag, default, c⟩) ∈ earlier ∧ answer ⟨t, flag, default, c⟩ = r

/-- The store behind some questions: the cache holds answers to them. -/
structure Recalls (digest : String → String) (owner : Nat) (s : Store)
    (answer : (q : Question) → Resolution q.type.Value) (earlier : List (Nat × Question))
    (s' : Store) : Prop where
  aside : s.Aside s'
  filled : (s'.caches owner).Filled digest (Answered answer earlier)

/-- What comes back for a question behind earlier ones. -/
def Recalled (digest : String → String) (answer : (q : Question) → Resolution q.type.Value)
    (earlier : List (Nat × Question)) (q : Question) (r : Resolution q.type.Value) : Prop :=
  r = answer q ∨ ∃ time default c, (time, ⟨q.type, q.flag, default, c⟩) ∈ earlier ∧
    digest q.context.canonicalText = digest c.canonicalText ∧
    (answer ⟨q.type, q.flag, default, c⟩).error = none ∧
    r = { answer ⟨q.type, q.flag, default, c⟩ with reason := some .cached }

/-- One more question. -/
theorem Recalls.ask {s s' : Store} (h : Recalls digest owner s answer earlier s')
    (hplain : Cache.Plain digest) (hp : p.Answers s answer) (now : Nat) (q : Question) :
    ∃ r s₁, ((cached digest owner p).ask q).on { s' with now := now } = (.ok r, s₁) ∧
      Recalled digest answer earlier q r ∧
      Recalls digest owner s answer (earlier ++ [(now, q)]) s₁ := by
  obtain ⟨t, flag, default, c⟩ := q
  have hbefore : s.Aside { s' with now := now } := h.aside.at now
  have hfilled : (s'.caches owner).Filled digest
      (Answered answer (earlier ++ [(now, ⟨t, flag, default, c⟩)])) := by
    refine h.filled.mono ?_
    rintro t' flag' c' r ⟨time, default', hmem, hr⟩
    exact ⟨time, default', List.mem_append_left _ hmem, hr⟩
  have hlook : ((Cache.lookedUp owner (Cache.key digest flag t c) { s' with now := now }).caches
      owner).Filled digest (Answered answer (earlier ++ [(now, ⟨t, flag, default, c⟩)])) := by
    rw [Cache.lookedUp_caches]
    exact hfilled.get? _ now
  have hown : Answered answer (earlier ++ [(now, ⟨t, flag, default, c⟩)]) t flag c
      (answer ⟨t, flag, default, c⟩) :=
    ⟨now, default, List.mem_append_right _ List.mem_cons_self, rfl⟩
  rcases hfound : Cache.found? digest owner t flag c { s' with now := now } with _ | r
  · have haside := hbefore.cache owner ((s'.caches owner).get? (Cache.key digest flag t c) now).2
    obtain ⟨s₁, hinner, hlogged⟩ := hp _ haside ⟨t, flag, default, c⟩
    refine ⟨_, _, on_cached_miss hfound hinner, .inl rfl, (haside.logged hlogged).cache _ _, ?_⟩
    obtain ⟨records, rfl⟩ := hlogged
    rw [Cache.remembered_caches]
    exact hlook.insert (fun _ => hown) now
  · obtain ⟨s₁, hrun, hlogged⟩ := on_cached_hit p default hfound
    obtain ⟨c', hdigest, hvalid, time, default', hmem, rfl⟩ := h.filled.found hplain hfound
    refine ⟨_, s₁, hrun, .inr ⟨time, default', c', hmem, hdigest, hvalid, rfl⟩,
      (hbefore.cache _ _).logged hlogged, ?_⟩
    obtain ⟨records, rfl⟩ := hlogged
    exact hlook

theorem asked_concat (p : Provider) (s : Store) (earlier : List (Nat × Question)) (now : Nat)
    (q : Question) : p.asked s (earlier ++ [(now, q)]) =
      ((p.ask q).on { p.asked s earlier with now := now }).2 := by
  rw [asked, List.foldl_append]
  rfl

/-- Questions do not change what the provider inside answers. -/
theorem Answers.aside_asked {s : Store} (hp : p.Answers s answer)
    (earlier : List (Nat × Question)) : s.Aside (p.asked s earlier) := by
  induction earlier using List.reverseRecOn with
  | nil => rfl
  | append_singleton earlier q ih =>
    obtain ⟨now, q⟩ := q
    obtain ⟨s₁, hrun, hlogged⟩ := hp _ (ih.at now) q
    rw [asked_concat, hrun]
    exact (ih.at now).logged hlogged

theorem Answers.outcome {s : Store} (hp : p.Answers s answer) (earlier : List (Nat × Question))
    (now : Nat) (q : Question) : p.outcome s earlier now q = .ok (answer q) := by
  obtain ⟨s₁, hrun, -⟩ := hp _ ((hp.aside_asked earlier).at now) q
  exact congrArg (·.1) hrun

/-- Any questions behind a cache that was empty at first. -/
theorem recalls_asked (hplain : Cache.Plain digest) {s : Store} (hp : p.Answers s answer)
    {settings : CacheSettings} (hempty : s.caches owner = .ofSettings settings)
    (earlier : List (Nat × Question)) :
    Recalls digest owner s answer earlier ((cached digest owner p).asked s earlier) := by
  induction earlier using List.reverseRecOn with
  | nil => exact ⟨rfl, by rw [asked, List.foldl_nil, hempty]; exact Cache.filled_ofSettings _⟩
  | append_singleton earlier q ih =>
    obtain ⟨now, q⟩ := q
    obtain ⟨r, s₁, hrun, -, hnext⟩ := ih.ask hplain hp now q
    rw [asked_concat, hrun]
    exact hnext

/-- Whatever was asked before, what comes back answers the question or an earlier one for the flag
and the type, in a context of the same digest. -/
theorem cached_recalls (hplain : Cache.Plain digest) {s : Store} (hp : p.Answers s answer)
    {settings : CacheSettings} (hempty : s.caches owner = .ofSettings settings)
    (earlier : List (Nat × Question)) (now : Nat) (q : Question) :
    ∃ r, (cached digest owner p).outcome s earlier now q = .ok r ∧
      Recalled digest answer earlier q r := by
  obtain ⟨r, s₁, hrun, hrecalled, -⟩ :=
    (recalls_asked hplain hp hempty earlier).ask hplain hp now q
  exact ⟨r, congrArg (·.1) hrun, hrecalled⟩

/-- For as long as it is kept, an answer without an error is served for every context of the digest,
whatever the default is. -/
theorem cached_repeats {s : Store} (hp : p.Answers s answer) {settings : CacheSettings}
    (hempty : s.caches owner = .ofSettings settings) (hactive : settings.isActive = true)
    {t : FlagType} {flag : String} {default : t.Value} {c c' : Context} {r : Resolution t.Value}
    (hr : answer ⟨t, flag, default, c⟩ = r) (hvalid : r.error = none)
    (hjson : t.ofJson? (t.toJson r.value) = some r.value)
    (hdigest : digest c.canonicalText = digest c'.canonicalText) {now now' : Nat}
    (hfresh : now' - now < settings.ttl) (default' : t.Value) :
    (cached digest owner p).outcome s [(now, ⟨t, flag, default, c⟩)] now' ⟨t, flag, default', c'⟩ =
      .ok { r with reason := some .cached } := by
  have hkey : Cache.key digest flag t c' = Cache.key digest flag t c := by
    rw [Cache.key, Cache.key, hdigest]
  have hstart : ({ s with now := now } : Store).caches owner = .ofSettings settings := hempty
  have hmissed : Cache.found? digest owner t flag c { s with now := now } = none := by
    rw [Cache.found?, hstart, Cache.get?_ofSettings]
    rfl
  have hinitial : s.Aside { s with now := now } := rfl
  have haside : s.Aside (Cache.lookedUp owner (Cache.key digest flag t c) { s with now := now }) :=
    hinitial.cache owner _
  obtain ⟨s₁, hinner, records, rfl⟩ := hp _ haside ⟨t, flag, default, c⟩
  rw [hr] at hinner
  have hrun := on_cached_miss hmissed hinner
  have hasked : (cached digest owner p).asked s [(now, ⟨t, flag, default, c⟩)] = _ :=
    congrArg (·.2) hrun
  have hfound : Cache.found? digest owner t flag c'
      { (cached digest owner p).asked s [(now, ⟨t, flag, default, c⟩)] with now := now' } =
      some r := by
    have hkept : (((Cache.ofSettings settings).insert (Cache.key digest flag t c) r.toJson now).get?
        (Cache.key digest flag t c) now').1 = some r.toJson :=
      Cache.get?_insert_ofSettings hactive hvalid hfresh
    have hcache : ((cached digest owner p).asked s [(now, ⟨t, flag, default, c⟩)]).caches owner =
        (Cache.ofSettings settings).insert (Cache.key digest flag t c) r.toJson now := by
      rw [hasked, Cache.remembered_caches]
      dsimp only
      rw [Cache.lookedUp_caches, hstart, Cache.get?_ofSettings]
      rfl
    rw [Cache.found?, hkey, hcache, hkept]
    exact Cache.typed?_toJson hjson
  obtain ⟨s₂, hrun₂, -⟩ := on_cached_hit p default' hfound
  exact congrArg (·.1) hrun₂

end

end Provider

end FeatureFlags
