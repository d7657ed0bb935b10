import FeatureFlags.Memory.Provider
import FeatureFlags.Proofs.Lifecycle.Seen
import FeatureFlags.Proofs.Nesting
import FeatureFlags.Proofs.Targeting.Selection
import FeatureFlags.Remote.Provider

/-!
# Failures serve the caller's default

An answer with an error holds the default of its caller, the reason for errors and no variant. The
library's own backends answer so, and caches, isolators, strategies and clients keep it so: a cache
never holds an error, and the others pass an error on as it is or make a new one with the default.
-/
namespace FeatureFlags

/-- An error comes with the default, with the reason for errors, and without a variant. -/
def Resolution.FailsWith {α : Type} (default : α) (r : Resolution α) : Prop :=
  ∀ e, r.error = some e → r.value = default ∧ r.reason = some .error ∧ r.variant = none

/-- No cache holds a result with an error. -/
def Store.ErrorFree (s : Store) : Prop :=
  ∀ owner key detail, (s.caches owner).Holds key detail → detail.error = none

namespace Resolution

variable {α : Type} {default : α}

theorem failsWith_failed (default : α) (e : EvaluationError) :
    (failed default e).FailsWith default := fun _ _ => ⟨rfl, rfl, rfl⟩

theorem FailsWith.of_valid {r : Resolution α} (h : r.error = none) : r.FailsWith default := by
  intro e he
  rw [h] at he
  cases he

/-- A value of JSON becomes the default where it fails to be one of the type. -/
theorem failsWith_typed (t : FlagType) (default : t.Value) (r : Resolution Json) :
    (r.typed t default).FailsWith default := by
  rw [typed]
  cases r.error with
  | some e => exact fun _ _ => ⟨rfl, rfl, rfl⟩
  | none =>
    cases t.ofJson? r.value with
    | some value => exact .of_valid rfl
    | none => exact failsWith_failed _ _

end Resolution

/-! ## Backends of the library -/

section

variable {t : FlagType} {flag : String} {default : t.Value} {c : Context}

theorem MemoryFlag.answerFrom_failsWith (flags : Table MemoryFlag) :
    (answerFrom flags flag t default c).FailsWith default := by
  rw [answerFrom]
  cases flags.get? flag with
  | none => exact Resolution.failsWith_failed _ _
  | some f =>
    dsimp only
    rw [answer]
    split
    · dsimp only
      cases f.variants.get? (f.choose c).1 with
      | none => exact Resolution.failsWith_failed _ _
      | some j =>
        dsimp only
        cases t.ofJson? j with
        | none => exact Resolution.failsWith_failed _ _
        | some value => exact .of_valid rfl
    · exact .of_valid rfl

theorem FlagDefinition.answer_failsWith (f : FlagDefinition) :
    (f.answer flag t default c).FailsWith default := by
  rw [answer]
  cases f.choose? c with
  | none => exact Resolution.failsWith_failed _ _
  | some chosen =>
    dsimp only
    cases t.ofJson? chosen.1.value with
    | some value => exact .of_valid rfl
    | none => exact Resolution.failsWith_failed _ _

theorem VariableSource.answer_failsWith (naming : VariableNaming) (lookup : Lookup) :
    (answer naming lookup flag t default c).FailsWith default := by
  rw [answer]
  cases lookup (naming.variableOf flag) with
  | none => exact Resolution.failsWith_failed _ _
  | some raw =>
    dsimp only
    cases FlagDefinition.ofText? raw with
    | none => exact Resolution.failsWith_failed _ _
    | some f => exact f.answer_failsWith

end

theorem Store.ErrorFree.forgets {s s' : Store} (h : s.ErrorFree) (hs : s.Forgets s') :
    s'.ErrorFree := fun owner key detail hheld => h owner key detail (hs owner key detail hheld)

theorem Store.ErrorFree.of_caches {s s' : Store} (h : s.ErrorFree) (hs : s'.caches = s.caches) :
    s'.ErrorFree := h.forgets fun _ _ _ hheld => hs ▸ hheld

theorem Store.ErrorFree.remembered {s : Store} (h : s.ErrorFree) (owner : Nat) (key : String)
    (r : Resolution Json) : (Cache.remembered owner key r s).ErrorFree := by
  intro i k d hheld
  rcases Cache.holds_remembered hheld with hheld | ⟨-, -, rfl, hvalid⟩
  · exact h i k d hheld
  · exact hvalid

/-- No error is found in a cache. -/
theorem Store.ErrorFree.found {s : Store} (h : s.ErrorFree) {digest : String → String}
    {owner : Nat} {t : FlagType} {flag : String} {c : Context} {r : Resolution t.Value}
    (hfound : Cache.found? digest owner t flag c s = some r) : r.error = none := by
  obtain ⟨detail, hdetail, htyped⟩ := Option.bind_eq_some_iff.1 hfound
  obtain ⟨value, -, rfl⟩ := Option.map_eq_some_iff.1 htyped
  exact h owner _ detail (Cache.holds_of_get? hdetail)

/-- A computation puts no error into a cache, also if it crashes. -/
def Eval.PutsNoError {α : Type} (x : Eval α) : Prop :=
  ∀ s : Store, s.ErrorFree → (x.on s).2.ErrorFree

theorem Eval.PutsNoError.bind {α β : Type} {x : Eval α} {f : α → Eval β} (hx : x.PutsNoError)
    (hf : ∀ a, (f a).PutsNoError) : (x >>= f).PutsNoError := by
  intro s hs
  have hfirst := hx s hs
  rcases hrun : x.on s with ⟨e | a, s₁⟩ <;> rw [hrun] at hfirst
  · rwa [Eval.on_bind_error hrun]
  · rw [Eval.on_bind_ok hrun]
    exact hf a s₁ hfirst

theorem Eval.PutsNoError.of_caches {α : Type} {x : Eval α}
    (h : ∀ s, (x.on s).2.caches = s.caches) : x.PutsNoError := fun s hs => hs.of_caches (h s)

namespace Remote.Service

theorem suspendedUntil_caches (service : Service) (s : Store) :
    (service.suspendedUntil.on s).2.caches = s.caches := by
  have hget : (get : Eval Store).on s = (.ok s, s) := rfl
  rw [suspendedUntil, Eval.on_bind_ok hget]
  cases (s.suspensions service.owner).filter (s.now < ·) with
  | some time => rfl
  | none => rfl

theorem read_caches (service : Service) (flag : String) (response : TransportResponse) (s : Store) :
    ((service.read flag response).on s).2.caches = s.caches := by
  unfold read
  split <;> rfl

/-- A service puts nothing into a cache apart from what its transport does. -/
theorem fetch_putsNoError (service : Service)
    (h : ∀ request, (service.transport request).PutsNoError) (flag : String) (c : Context) :
    (service.fetch flag c).PutsNoError := by
  refine (Eval.PutsNoError.of_caches service.suspendedUntil_caches).bind fun until? => ?_
  cases until? with
  | some time => exact .of_caches fun _ => rfl
  | none =>
    have hreport : (Eval.report .trace "sending OFREP evaluation request"
        [("flag_key", .text flag)]).PutsNoError := .of_caches fun _ => rfl
    refine hreport.bind fun _ => (h _).bind fun answer => ?_
    cases answer with
    | error failure => exact .of_caches fun _ => rfl
    | ok response => exact .of_caches (service.read_caches flag response)

end Remote.Service

/-- A backend of the library, as far as its answers go: flags from memory or from variables, or a
service whose transport puts no error into a cache. -/
def Provider.Builtin (p : Provider) : Prop :=
  (∃ owner, p.resolve = (Memory.provider owner).resolve) ∨
  (∃ (source : VariableSource) (naming : VariableNaming),
    p.resolve = (source.provider naming).resolve) ∨
  ∃ service : Remote.Service, (∀ request, (service.transport request).PutsNoError) ∧
    p.resolve = service.toProvider.resolve

theorem Provider.Builtin.resolve {p : Provider} (h : p.Builtin) (t : FlagType) (flag : String)
    (default : t.Value) (c : Context) :
    (p.resolve t flag default c).PutsNoError ∧
      ∀ s s' r, (p.resolve t flag default c).on s = (.ok r, s') → r.FailsWith default := by
  rcases h with ⟨owner, hp⟩ | ⟨source, naming, hp⟩ | ⟨service, htransport, hp⟩ <;> rw [hp]
  · refine ⟨.of_caches fun _ => rfl, ?_⟩
    rintro s s' r ⟨⟩
    exact MemoryFlag.answerFrom_failsWith _
  · refine ⟨.of_caches fun s => ?_, fun s s' r hrun => ?_⟩
    · obtain ⟨s₁, hanswer, records, rfl⟩ := source.on_resolve naming t flag default c s
      rw [hanswer]
    · obtain ⟨s₁, hanswer, -⟩ := source.on_resolve naming t flag default c s
      cases hanswer.symm.trans hrun
      exact VariableSource.answer_failsWith naming _
  · refine ⟨(service.fetch_putsNoError htransport flag c).bind fun answer => ?_, ?_⟩
    · cases answer with
      | ok r => exact .of_caches fun _ => rfl
      | error e => exact .of_caches fun _ => rfl
    · intro s s' r hrun
      rcases hfetch : (service.fetch flag c).on s with ⟨e | answer, s₁⟩
      · cases (Eval.on_bind_error hfetch).symm.trans hrun
      · cases answer with
        | ok j =>
          cases (Eval.on_bind_ok hfetch).symm.trans hrun
          exact Resolution.failsWith_typed t default j
        | error e =>
          cases (Eval.on_bind_ok hfetch).symm.trans hrun
          exact Resolution.failsWith_failed default e

/-! ## Compositions -/

/-- Backends of the library, and hooks, statuses and observers that put no error into a cache. -/
structure Parts.ErrorFree (parts : Parts) : Prop where
  backends : ∀ p, parts.backends p → p.Builtin
  others : ∀ q : Request, q.Of parts → q.isResolve = false → q.perform.PutsNoError

theorem lasting_errorFree : Lasting fun _ s => s.ErrorFree :=
  ⟨fun h hs => h.forgets hs, fun h _ => h⟩

theorem Parts.ErrorFree.keep {parts : Parts} (h : parts.ErrorFree) :
    parts.Keep fun _ s => s.ErrorFree := by
  intro q hq past s hs
  cases hresolve : q.isResolve with
  | false => exact h.others q hq hresolve s hs
  | true =>
    cases q with
    | resolve t ask c =>
      obtain ⟨p, flag, default, hp, rfl⟩ := hq
      exact ((h.backends p hp).resolve t flag default c).1 s hs
    | before | after | error | atEnd | status | mismatch => cases hresolve

section

variable {parts : Parts} {caching : Nat → (String → String) → Provider → Prop} {t : FlagType}
  {flag : String} {default : t.Value}

/-- What hooks make of an answer fails with the default if the answer does. -/
theorem Lifecycle.Outcome.failsWith {hooks : List Hook} {r : Resolution t.Value} {past : List Call}
    (h : Outcome hooks flag default (fun r _ => r.FailsWith default) r past) :
    r.FailsWith default := by
  rcases h with ⟨e, rfl⟩ | ⟨hr, -⟩
  · exact Resolution.failsWith_failed default e
  · exact hr

/-- That answers fail with the default is handed on by all that is put around a provider. Caches may
be shared and may have any keys: what they hold has no error. -/
theorem Provider.handed_failsWith (hparts : parts.ErrorFree) :
    Provider.Handed (fun _ s => s.ErrorFree) parts caching flag default
      fun _ r _ => r.FailsWith default where
  grows _ _ _ _ hr := hr
  backend p hp c := by
    have hkeep := hparts.keep (.resolve t (p.resolve t flag default) c) ⟨p, flag, default, hp, rfl⟩
    refine (Yields.request _ hkeep).post ?_
    rintro r past ⟨-, s, s', hrun⟩
    exact ((hparts.backends p hp).resolve t flag default c).2 s s' r hrun
  put owner digest p _ c past s r hs hr := ⟨hs.remembered _ _ _, hr⟩
  hit owner digest p _ c past s r hs hfound := by
    have hvalid : r.error = none := hs.found hfound
    exact .of_valid hvalid
  isolated i r past h := h.failsWith
  combined m r past h := by
    rcases h with ⟨e, rfl⟩ | ⟨x, -, r₀, hr₀, rfl⟩
    · exact Resolution.failsWith_failed default e
    · exact hr₀.failsWith

theorem Nested.failsWith {p : Provider} (h : Nested parts caching p) (hparts : parts.ErrorFree)
    (c : Context) :
    Yields (fun _ s => s.ErrorFree) (fun _ => True) (p.resolve t flag default c)
      fun r _ => r.FailsWith default :=
  h.yields lasting_errorFree hparts.keep (Provider.handed_failsWith hparts) c

/-- Whatever was evaluated before, no cache holds an error. -/
theorem Episode.after_errorFree (hparts : parts.ErrorFree) {episodes : List Episode}
    (hover : ∀ e ∈ episodes, e.operation.Over parts caching) {s : Store} (hs : s.ErrorFree) :
    (after s episodes).ErrorFree := by
  induction episodes generalizing s with
  | nil => exact hs
  | cons e rest ih =>
    have hrun := Operation.run_yields (hover e List.mem_cons_self) lasting_errorFree hparts.keep
      (fun _ _ _ _ _ _ _ hr => hr) fun p hp t flag default c => hp.failsWith hparts c
    obtain ⟨_, _, hnext, _⟩ := hrun [] (e.meanwhile s) (hs.forgets (e.forgets s)) trivial
    exact ih (fun o ho => hover o (List.mem_cons_of_mem e ho)) hnext

/-- Behind any evaluations, with any nesting of caches, isolators and combined providers around the
library's backends: details with an error hold the default of this call, the reason for errors and
no variant. -/
theorem Client.error_serves_default (hparts : parts.ErrorFree) {s s' : Store} (hs : s.ErrorFree)
    {earlier : List Episode} (hearlier : ∀ e ∈ earlier, e.operation.Over parts caching)
    (hmeanwhile : (Episode.after s earlier).Forgets s') {client : Client}
    {context : Option Context} {options : EvaluationOptions}
    (hover : (Operation.evaluate client t flag default context options).Over parts caching)
    {details : Evaluation t.Value} {e : EvaluationError}
    (hdetails : ((client.details t flag default context options).on s').1 = .ok details)
    (herror : details.error = some e) :
    details.value = default ∧ details.reason = some .error ∧ details.variant = none := by
  obtain ⟨hforeign, hnested⟩ := hover
  have hs' : s'.ErrorFree := (Episode.after_errorFree hparts hearlier hs).forgets hmeanwhile
  have hhooks : ∀ hook ∈ client.hooks ++ options.hooks, hook.Keeps fun _ s => s.ErrorFree :=
    fun hook hmem => hparts.keep.hook (hforeign hook hmem)
  have hresolve (c : Context) : Yields (fun _ s => s.ErrorFree) (fun _ => True)
      (client.provider.resolve t flag default c) fun r _ => r.FailsWith default :=
    hnested.failsWith hparts c
  have hrun := Client.details_yields lasting_errorFree
    (hnested.regular lasting_errorFree hparts.keep) options hhooks (fun _ _ _ hr => hr) hresolve
    context
  obtain ⟨_, _, _, houtcome⟩ := hrun [] s' hs' trivial
  exact (houtcome details hdetails).failsWith e herror

end

/-- Flags from memory without hooks. -/
def Parts.memory : Parts where
  hooks _ := False
  backends p := ∃ owner, p = Memory.provider owner
  observers _ := False

theorem Parts.errorFree_memory : Parts.memory.ErrorFree where
  backends := by
    rintro p ⟨owner, rfl⟩
    exact .inl ⟨owner, rfl⟩
  others q hq hresolve := by
    cases q with
    | status p =>
      obtain ⟨owner, rfl⟩ := hq
      exact .of_caches fun _ => rfl
    | before | after | error | atEnd | mismatch => exact hq.elim
    | resolve => cases hresolve

/-- Two members with flags from memory. -/
def Multi.ofMemory : Multi :=
  ⟨[⟨"a", .new 0 (Memory.provider 0) []⟩, ⟨"b", .new 1 (Memory.provider 1) []⟩], .firstSuccess⟩

theorem Multi.nested_ofMemory {caching : Nat → (String → String) → Provider → Prop} :
    Nested .memory caching ofMemory.toProvider := by
  have hnone : ∀ hook ∈ [], Parts.memory.hooks hook := fun _ h => absurd h List.not_mem_nil
  have hmember (owner : Nat) : Nested .memory caching (Memory.provider owner) :=
    .backend ⟨owner, rfl⟩ hnone
  refine .combined ?_ (fun _ h => nomatch h) ?_
  · exact List.forall_mem_cons.2 ⟨isolates_new trivial _ hnone,
      List.forall_mem_singleton.2 (isolates_new trivial _ hnone)⟩
  · exact List.forall_mem_cons.2 ⟨hmember 0, List.forall_mem_singleton.2 (hmember 1)⟩

theorem Client.error_serves_default_unknown :
    let client : Client := { provider := .cached Md5.hex 0 Multi.ofMemory.toProvider }
    let first : Episode := ⟨id, fun _ _ _ _ h => h, .evaluate client .boolean "f" false none {}⟩
    let s := Episode.after (Store.fresh 0) [first]
    ∃ details, ((client.details .boolean "f" true none {}).on s).1 = .ok details ∧
      details.isError = true ∧ details.value = true ∧ details.reason = some .error ∧
      details.variant = none := by
  intro client first s
  have hrun : ((client.details .boolean "f" true none {}).on s).1 =
      .ok ((Resolution.failed true (Fault.flagNotFound "f").error).of "f") := rfl
  have hnested : Nested .memory (fun _ _ _ => True) client.provider :=
    .cached trivial Multi.nested_ofMemory
  have hover (default : Bool) : (Operation.evaluate client .boolean "f" default none {}).Over
      .memory fun _ _ _ => True := ⟨fun _ h => absurd h List.not_mem_nil, hnested⟩
  have hfresh : (Store.fresh 0).ErrorFree := fun _ _ _ h => absurd h (Cache.not_holds_ofSettings _)
  have h := error_serves_default Parts.errorFree_memory hfresh
    (List.forall_mem_singleton.2 (hover false)) (fun _ _ _ h => h) (hover true) hrun rfl
  exact ⟨_, hrun, rfl, h⟩

end FeatureFlags
