import FeatureFlags.Proofs.Cache.Provider
import FeatureFlags.Proofs.Isolation.Operations
import FeatureFlags.Proofs.Multi.Chosen

/-!
# Answers of nested providers

Backends are put behind caches, isolated and combined, in any nesting, and clients ask what comes of
it. There is one rule for each way to put providers together. It says which answers there are if it
is known which ones the providers inside give: an answer comes from inside, from a cache, or it is
the caller's default with an error.
-/
namespace FeatureFlags

/-- Foreign code keeps an invariant. -/
def Parts.Keep (parts : Parts) (I : List Call → Store → Prop) : Prop :=
  ∀ q : Request, q.Of parts → q.Keeps I

theorem Parts.Keep.hook {parts : Parts} {I : List Call → Store → Prop} (h : parts.Keep I)
    {hook : Hook} (hhook : parts.hooks hook) : hook.Keeps I := by
  intro q hq
  cases q with
  | before | after | error | atEnd =>
    cases hq
    exact h _ hhook
  | resolve | status | mismatch => cases hq

/-- What is asked of a provider apart from answers keeps an invariant. -/
structure Provider.Regular (I : List Call → Store → Prop) (p : Provider) : Prop where
  hooks : ∀ hook ∈ p.hooks, hook.Keeps I
  status : Yields I (fun _ => True) p.status fun _ _ => True

/-- Providers that are put together of foreign parts, with caches as `caching` allows them: one of a
number and a digest in front of a provider. -/
inductive Nested (parts : Parts) (caching : Nat → (String → String) → Provider → Prop) :
    Provider → Prop where
  | backend {p : Provider} (hp : parts.backends p) (hooks : ∀ hook ∈ p.hooks, parts.hooks hook) :
    Nested parts caching p
  | cached {owner : Nat} {digest : String → String} {p : Provider} (hown : caching owner digest p)
    (h : Nested parts caching p) : Nested parts caching (.cached digest owner p)
  | isolated {i : Isolator} (hi : Isolates (fun _ => True) parts i)
    (h : Nested parts caching i.provider) : Nested parts caching i.toProvider
  | combined {m : Multi} (hi : ∀ x ∈ m.members, Isolates (fun _ => True) parts x.isolator)
    (observer : ∀ settings, m.strategy = .comparison settings → settings.ObservedBy parts)
    (h : ∀ x ∈ m.members, Nested parts caching x.isolator.provider) :
    Nested parts caching m.toProvider

variable {I : List Call → Store → Prop} {parts : Parts} {t : FlagType} {flag : String}
  {default : t.Value} {A : Resolution t.Value → List Call → Prop}

theorem Isolates.hooks_keep {i : Isolator} (hi : Isolates (fun _ => True) parts i)
    (hparts : parts.Keep I) (h : i.provider.Regular I) : ∀ hook ∈ i.hooks, hook.Keeps I := by
  obtain ⟨more, hhooks, hmore⟩ := hi.hooks
  intro hook hmem
  rw [hhooks] at hmem
  rcases List.mem_append.1 hmem with hmem | hmem
  · exact h.hooks hook hmem
  · exact hparts.hook (hmore hook hmem)

theorem Nested.regular {caching : Nat → (String → String) → Provider → Prop} {p : Provider}
    (h : Nested parts caching p) (hI : Lasting I) (hparts : parts.Keep I) : p.Regular I := by
  induction h with
  | @backend p hp hooks =>
    have hstatus := Yields.request (F := fun _ => True) (.status p) (hparts (.status p) hp)
    exact ⟨fun hook hmem => hparts.hook (hooks hook hmem), hstatus.post fun _ _ _ => trivial⟩
  | cached _ _ ih => exact ⟨ih.hooks, ih.status⟩
  | isolated _ _ ih =>
    refine ⟨fun hook hmem => ?_, ih.status⟩
    rw [List.mem_singleton.1 hmem]
    exact Isolator.hook_keeps hI _
  | @combined m _ _ _ ih =>
    refine ⟨fun hook hmem => ?_, ?_⟩
    · obtain ⟨x, -, rfl⟩ := List.mem_map.1 hmem
      exact x.isolator.hook_keeps hI
    · refine (Yields.mapM fun x hx => (ih x hx).status).bind fun _ => ?_
      exact Yields.pure _ fun _ _ => trivial

/-! ## Caches -/

/-- A cached provider answers from the cache, or as the provider inside, whose answer is put in. -/
theorem Provider.cached_yields {digest : String → String} {owner : Nat} {inner : Provider}
    {c : Context} {A' : Resolution t.Value → List Call → Prop} (hI : Lasting I)
    (hinner : Yields I (fun _ => True) (inner.resolve t flag default c) A)
    (hput : ∀ past s r, I past s → A r past →
      I past (Cache.remembered owner (Cache.key digest flag t c) r.toJson s) ∧ A' r past)
    (hhit : ∀ past s r, I past s → Cache.found? digest owner t flag c s = some r →
      A' { r with reason := some .cached } past) :
    Yields I (fun _ => True) ((cached digest owner inner).resolve t flag default c) A' := by
  have hlook : Yields I (fun _ => True) (Cache.lookUp owner (Cache.key digest flag t c))
      fun found past => ∀ r, found.bind (Cache.typed? t) = some r →
        A' { r with reason := some .cached } past := by
    refine Yields.internal fun past s hs _ => ?_
    have hlooked : I past (Cache.lookedUp owner (Cache.key digest flag t c) s) :=
      hI.forgets hs fun _ _ _ => Cache.holds_lookedUp
    exact ⟨_, _, Cache.on_lookUp owner _ s, rfl, hlooked, fun r hr => hhit past s r hs hr⟩
  refine hlook.bind fun found => ?_
  cases found.bind (Cache.typed? t) with
  | some r =>
    exact (Yields.report hI _ _ _).bind fun _ => Yields.pure _ fun past h => h r rfl
  | none =>
    refine (hinner.pre fun _ _ => trivial).bind fun r => ?_
    have hremember : Yields I (A r)
        (Cache.remember owner (Cache.key digest flag t c) r.toJson) fun _ past => A' r past :=
      Yields.internal fun past s hs hr => ⟨(), _, rfl, rfl, hput past s r hs hr⟩
    exact hremember.bind fun _ => Yields.pure r fun _ h => h

/-! ## Isolators -/

namespace Isolator

variable {i : Isolator}

theorem evaluate_yields (hI : Lasting I) (hhooks : ∀ hook ∈ i.hooks, hook.Keeps I)
    (hA : ∀ r, Grows (A r))
    (hresolve : ∀ c, Yields I (fun _ => True) (i.provider.resolve t flag default c) A)
    (captured : Option Captured) (c : Context) :
    Yields I (fun _ => True) (i.evaluate captured t flag default c)
      (Lifecycle.Outcome i.hooks flag default A) :=
  Lifecycle.evaluate_yields hI hhooks (i.hookContext captured t flag default c) _ hA hresolve

/-- An isolated provider answers as the provider inside, if the hooks around it let that pass. -/
theorem resolve_yields (hI : Lasting I) (hhooks : ∀ hook ∈ i.hooks, hook.Keeps I)
    (hA : ∀ r, Grows (A r))
    (hresolve : ∀ c, Yields I (fun _ => True) (i.provider.resolve t flag default c) A)
    (c : Context) :
    Yields I (fun _ => True) (i.toProvider.resolve t flag default c)
      (Lifecycle.Outcome i.hooks flag default A) := by
  have htake : Yields I (fun _ => True) (i.take? flag t) fun _ _ => True :=
    Yields.forgetting hI (fun s => ⟨_, _, i.on_take? flag t s, i.released_internal s,
      fun _ _ _ h => h⟩) fun _ _ _ => trivial
  exact htake.bind fun captured => evaluate_yields hI hhooks hA hresolve captured c

end Isolator

/-! ## Members -/

namespace Multi

theorem released_caches (s : Store) (members : List Member) :
    (released s members).caches = s.caches := by
  induction members generalizing s with
  | nil => rfl
  | cons x rest ih => exact ih (x.isolator.released s)

/-- The default with an error, or the answer of a member that its hooks let pass, with its name. -/
def Served (m : Multi) (flag : String) (default : t.Value)
    (A : Member → Resolution t.Value → List Call → Prop) (r : Resolution t.Value)
    (past : List Call) : Prop :=
  (∃ e, r = .failed default e) ∨ ∃ x ∈ m.members, ∃ r₀,
    Lifecycle.Outcome x.isolator.hooks flag default (A x) r₀ past ∧ r = tagged r₀ x.name

theorem evaluate_yields (hI : Lasting I) {m : Multi}
    {A : Member → Resolution t.Value → List Call → Prop}
    (hobserver : ∀ settings, m.strategy = .comparison settings → settings.Keeps I)
    (hhooks : ∀ x ∈ m.members, ∀ hook ∈ x.isolator.hooks, hook.Keeps I)
    (hA : ∀ x r, Grows (A x r))
    (hresolve : ∀ x ∈ m.members, ∀ c,
      Yields I (fun _ => True) (x.isolator.provider.resolve t flag default c) (A x))
    (c : Context) :
    Yields I (fun _ => True) (m.evaluate t flag default c) (m.Served flag default A) := by
  have htake : Yields I (fun _ => True) (candidates t flag default c m.members)
      fun members _ => (∃ s, members = (seats flag t s m.members).map (candidate flag default c)) ∧
        True := by
    refine Yields.internal fun past s hs _ => ?_
    have hreleased : I past (released s m.members) :=
      hI.forgets hs fun i _ _ h => by rwa [released_caches] at h
    exact ⟨_, _, on_candidates m.members s, released_internal s m.members, hreleased, ⟨s, rfl⟩,
      trivial⟩
  refine htake.bind fun members => Yields.known ?_
  rintro ⟨s, rfl⟩
  -- a candidate only has its name, so the member is found again behind it
  have hask : ∀ y ∈ (seats flag t s m.members).map (candidate flag default c),
      Yields I (fun _ => True) y.ask fun r past => ∃ x ∈ m.members, y.name = x.name ∧
        Lifecycle.Outcome x.isolator.hooks flag default (A x) r past := by
    intro y hy
    obtain ⟨⟨x, captured⟩, hseat, rfl⟩ := List.mem_map.1 hy
    have hx : x ∈ m.members := mem_of_mem_seats hseat
    have heval := Isolator.evaluate_yields hI (hhooks x hx) (hA x) (hresolve x hx) captured c
    exact heval.post fun r past hr => ⟨x, hx, rfl, hr⟩
  have hgrows (y : Candidate t) (r : Resolution t.Value) : Grows fun past =>
      ∃ x ∈ m.members, y.name = x.name ∧
        Lifecycle.Outcome x.isolator.hooks flag default (A x) r past := by
    rintro past more ⟨x, hx, hname, hr⟩
    exact ⟨x, hx, hname, Lifecycle.grows_outcome (hA x) flag r past more hr⟩
  refine (run_yields hI hobserver hgrows hask).post ?_
  rintro r past (hfailed | ⟨y, -, r₀, ⟨x, hx, hname, hr₀⟩, rfl⟩)
  · exact .inl hfailed
  · exact .inr ⟨x, hx, r₀, hr₀, by rw [hname]⟩

end Multi

/-! ## Nestings -/

/-- What answers have in common, and how each way to put providers together hands it on. -/
structure Provider.Handed (I : List Call → Store → Prop) (parts : Parts)
    (caching : Nat → (String → String) → Provider → Prop) (flag : String) (default : t.Value)
    (A : Provider → Resolution t.Value → List Call → Prop) : Prop where
  grows : ∀ p r, Grows (A p r)
  backend : ∀ p, parts.backends p → ∀ c,
    Yields I (fun _ => True) (p.resolve t flag default c) (A p)
  put : ∀ owner digest p, caching owner digest p → ∀ c past s r, I past s → A p r past →
    I past (Cache.remembered owner (Cache.key digest flag t c) r.toJson s) ∧
      A (.cached digest owner p) r past
  hit : ∀ owner digest p, caching owner digest p → ∀ c past s r, I past s →
    Cache.found? digest owner t flag c s = some r →
    A (.cached digest owner p) { r with reason := some .cached } past
  isolated : ∀ (i : Isolator) r past,
    Lifecycle.Outcome i.hooks flag default (A i.provider) r past → A i.toProvider r past
  combined : ∀ (m : Multi) r past,
    m.Served flag default (fun x => A x.isolator.provider) r past → A m.toProvider r past

/-- By induction on the nesting: what is handed on by each way to put providers together holds of
every answer. -/
theorem Nested.yields {caching : Nat → (String → String) → Provider → Prop} {p : Provider}
    {A : Provider → Resolution t.Value → List Call → Prop} (h : Nested parts caching p)
    (hI : Lasting I) (hparts : parts.Keep I)
    (hA : Provider.Handed I parts caching flag default A) (c : Context) :
    Yields I (fun _ => True) (p.resolve t flag default c) (A p) := by
  induction h generalizing c with
  | @backend p hp hooks => exact hA.backend p hp c
  | @cached owner digest p hown h ih =>
    exact Provider.cached_yields hI (ih c) (hA.put owner digest p hown c)
      (hA.hit owner digest p hown c)
  | @isolated i hi h ih =>
    have hhooks := hi.hooks_keep hparts (h.regular hI hparts)
    have hresolve := Isolator.resolve_yields hI hhooks (hA.grows i.provider) (fun c => ih c) c
    exact hresolve.post (hA.isolated i)
  | @combined m hi observer h ih =>
    have hhooks : ∀ x ∈ m.members, ∀ hook ∈ x.isolator.hooks, hook.Keeps I := fun x hx =>
      (hi x hx).hooks_keep hparts ((h x hx).regular hI hparts)
    have hobserver : ∀ settings, m.strategy = .comparison settings → settings.Keeps I :=
      fun settings hs tell htell flag answers =>
        hparts (.mismatch tell flag answers) (observer settings hs tell htell)
    have hevaluate := Multi.evaluate_yields hI hobserver hhooks
      (fun x => hA.grows x.isolator.provider) (fun x hx c => ih x hx c) c
    exact hevaluate.post (hA.combined m)

/-! ## Clients -/

namespace Client

variable {client : Client}

/-- A client answers as its provider, or with the default if the status does not allow to ask. -/
theorem resolve_yields (hstatus : Yields I (fun _ => True) client.provider.status fun _ _ => True)
    (hresolve : ∀ c, Yields I (fun _ => True) (client.provider.resolve t flag default c) A)
    (c : Context) :
    Yields I (fun _ => True) (client.resolve t flag default c) fun r past =>
      (∃ e, r = .failed default e) ∨ A r past := by
  refine hstatus.bind fun status => ?_
  cases status with
  | notReady => exact Yields.pure _ fun _ _ => .inl ⟨_, rfl⟩
  | fatal => exact Yields.pure _ fun _ _ => .inl ⟨_, rfl⟩
  | ready | stale | error => exact (hresolve c).post fun _ _ hr => .inr hr

theorem reportOutcome_yields (flag : String) (hI : Lasting I) (r : Resolution t.Value) :
    Yields I (fun _ => True) (reportOutcome flag r) fun _ _ => True := by
  refine Yields.forgetting hI (fun s => ?_) fun _ _ _ => trivial
  obtain ⟨s₁, hrun, records, rfl⟩ := on_reportOutcome flag r s
  exact ⟨(), _, hrun, Store.Logged.internal ⟨records, rfl⟩, fun _ _ _ h => h⟩

/-- What a client returns: the default with an error, or the answer of its provider, if the hooks of
the evaluation let it pass. -/
theorem details_yields (hI : Lasting I) (hregular : client.provider.Regular I)
    (options : EvaluationOptions) (hhooks : ∀ hook ∈ client.hooks ++ options.hooks, hook.Keeps I)
    (hA : ∀ r, Grows (A r))
    (hresolve : ∀ c, Yields I (fun _ => True) (client.provider.resolve t flag default c) A)
    (context : Option Context) :
    Yields I (fun _ => True) (client.details t flag default context options) fun details past =>
      Lifecycle.Outcome (client.allHooks options) flag default A details.toResolution past := by
  have hall : ∀ hook ∈ client.allHooks options, hook.Keeps I := by
    intro hook hmem
    rcases List.mem_append.1 hmem with hmem | hmem
    · exact hhooks hook hmem
    · exact hregular.hooks hook hmem
  have hgrows (r : Resolution t.Value) :
      Grows fun past => (∃ e, r = .failed default e) ∨ A r past :=
    fun past more h => h.imp_right (hA r past more)
  have hevaluate : Yields I (fun _ => True)
      (Lifecycle.evaluate (client.allHooks options) (client.hookContext flag default context)
        options.hints default (client.resolve t flag default))
      (Lifecycle.Outcome (client.allHooks options) flag default fun r past =>
        (∃ e, r = .failed default e) ∨ A r past) :=
    Lifecycle.evaluate_yields hI hall _ _ hgrows (resolve_yields hregular.status hresolve)
  refine hevaluate.bind fun r => ?_
  refine ((reportOutcome_yields flag hI r).frame (Lifecycle.grows_outcome hgrows flag r)).bind
    fun _ => Yields.pure _ fun past h => ?_
  rcases h.2 with hfailed | ⟨hfailed | hr, hpassed⟩
  · exact .inl hfailed
  · exact .inl hfailed
  · exact .inr ⟨hr, hpassed⟩

end Client

/-! ## Operations in sequence -/

/-- The hooks are foreign and the provider is nested of foreign parts. -/
def Operation.Over (parts : Parts) (caching : Nat → (String → String) → Provider → Prop) :
    Operation → Prop
  | evaluate client _ _ _ _ options =>
    (∀ hook ∈ client.hooks ++ options.hooks, parts.hooks hook) ∧
      Nested parts caching client.provider
  | resolve p .. => Nested parts caching p

theorem Operation.run_yields {caching : Nat → (String → String) → Provider → Prop}
    {A : Provider → (t : FlagType) → String → t.Value → Resolution t.Value → List Call → Prop}
    {operation : Operation} (hover : operation.Over parts caching) (hI : Lasting I)
    (hparts : parts.Keep I) (hA : ∀ p t flag default r, Grows (A p t flag default r))
    (hresolve : ∀ p, Nested parts caching p → ∀ t flag default c,
      Yields I (fun _ => True) (p.resolve t flag default c) (A p t flag default)) :
    Yields I (fun _ => True) operation.run fun _ _ => True := by
  cases operation with
  | evaluate client t flag default context options =>
    obtain ⟨hforeign, hnested⟩ := hover
    have hhooks : ∀ hook ∈ client.hooks ++ options.hooks, hook.Keeps I :=
      fun hook hmem => hparts.hook (hforeign hook hmem)
    have hdetails := Client.details_yields hI (hnested.regular hI hparts) options hhooks
      (hA _ t flag default) (hresolve _ hnested t flag default) context
    exact hdetails.bind fun _ => Yields.pure () fun _ _ => trivial
  | resolve p t flag default c =>
    exact (hresolve p hover t flag default c).bind fun _ => Yields.pure () fun _ _ => trivial

/-- An operation, and what happens outside before it: time passes, flags change, and caches may lose
what they hold. -/
structure Episode where
  meanwhile : Store → Store
  forgets : ∀ s : Store, s.Forgets (meanwhile s)
  operation : Operation

namespace Episode

/-- The store behind an episode, also where the operation crashed. -/
def next (s : Store) (e : Episode) : Store := (e.operation.run.on (e.meanwhile s)).2

def after (s : Store) (episodes : List Episode) : Store := episodes.foldl next s

end Episode

end FeatureFlags
