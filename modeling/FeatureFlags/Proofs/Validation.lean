import FeatureFlags.Hook.Validator
import FeatureFlags.Proofs.Nesting
import FeatureFlags.Scripted.Provider

/-!
# No rejected value escapes

A value on its way from a backend to the caller passes the hooks of isolators, and caches, which may
serve what they were given in an earlier evaluation. Main statement: a client that returns a value
without an error has had it accepted by every validator on that way, in this evaluation, or below a
cache that answered in the evaluation that the cache had it from (`Client.value_accepted`). The
invariant is that whatever a cache holds is vouched for by a recorded run.
-/
namespace FeatureFlags

variable {t : FlagType} {flag : String}

namespace Validator

/-- In the run a validator was shown a value of a flag, and accepted it. -/
def Accepted (v : Validator) (flag : String) (value : Json) (run : List Call) : Prop :=
  ∃ (seen : HookContext) (details : Evaluation Json) (hints : Hints),
    ⟨.after v.hook seen details hints, .ok (.ok ())⟩ ∈ run ∧ details.flag = flag ∧
    details.value = value ∧ v details = .ok ()

theorem Accepted.of_subset {v : Validator} {value : Json} {run run' : List Call}
    (h : v.Accepted flag value run) (sub : run ⊆ run') : v.Accepted flag value run' := by
  obtain ⟨seen, details, hints, hmem, hdetails⟩ := h
  exact ⟨seen, details, hints, sub hmem, hdetails⟩

/-- A validator lets pass what it accepts and nothing else. -/
theorem eq_ok_of_allows {v : Validator} {seen : HookContext} {details : Evaluation Json}
    {hints : Hints} (h : (Request.after v.hook seen details hints).Allows (.ok ())) :
    v details = .ok () := by
  obtain ⟨s, s', hrun⟩ := h
  change (v.hook.after seen details hints).on s = _ at hrun
  rw [hook] at hrun
  dsimp only at hrun
  rcases hverdict : v details with reason | _
  · rw [hverdict] at hrun
    cases hrun
  · rfl

theorem accepted_of_passed {v : Validator} {value : Json} {run : List Call}
    (h : v.hook.Passed flag value run) : v.Accepted flag value run := by
  obtain ⟨seen, details, hints, hmem, hflag, hvalue, hallows⟩ := h
  exact ⟨seen, details, hints, hmem, hflag, hvalue, eq_ok_of_allows hallows⟩

end Validator

/-! ## Where a value comes from -/

/-- Which provider the cache of a number stands in front of, with the digest of its keys. -/
abbrev Fronts := Nat → Option ((String → String) × Provider)

/-- The cache is that of this provider alone, and keys can be told apart. -/
def Fronts.Own (front : Fronts) (owner : Nat) (digest : String → String) (p : Provider) : Prop :=
  Cache.Plain digest ∧ front owner = some (digest, p)

/-- A provider has a value of a flag from a backend which was asked in the run, and all validators
of isolators on the way accepted it in the run. A cache on the way may have it from another run. -/
inductive Vouched (parts : Parts) (ran : List Call → Prop) (flag : String) (value : t.Value) :
    List Call → Provider → Prop where
  | answered {run : List Call} {p : Provider} {default : t.Value} {c : Context}
    {r : Resolution t.Value} (hp : parts.backends p)
    (hcall : ⟨.resolve t (p.resolve t flag default) c, .ok r⟩ ∈ run) (hvalid : r.error = none)
    (hvalue : r.value = value) : Vouched parts ran flag value run p
  | asked {run : List Call} {digest : String → String} {owner : Nat} {p : Provider}
    (h : Vouched parts ran flag value run p) :
    Vouched parts ran flag value run (.cached digest owner p)
  | kept {run earlier : List Call} {digest : String → String} {owner : Nat} {p : Provider}
    (hran : ran earlier) (h : Vouched parts ran flag value earlier p) :
    Vouched parts ran flag value run (.cached digest owner p)
  | isolated {run : List Call} {i : Isolator} (h : Vouched parts ran flag value run i.provider)
    (hv : ∀ v : Validator, v.hook ∈ i.hooks → v.Accepted flag (t.toJson value) run) :
    Vouched parts ran flag value run i.toProvider
  | member {run : List Call} {m : Multi} {x : Multi.Member} (hx : x ∈ m.members)
    (h : Vouched parts ran flag value run x.isolator.provider)
    (hv : ∀ v : Validator, v.hook ∈ x.isolator.hooks → v.Accepted flag (t.toJson value) run) :
    Vouched parts ran flag value run m.toProvider

variable {parts : Parts} {front : Fronts} {ran ran' nested : List Call → Prop} {value : t.Value}
  {p : Provider}

/-- Runs vouch for a value also when they go on. -/
theorem Vouched.mono {run run' : List Call} (h : Vouched parts ran flag value run p)
    (hran : ∀ run, ran run → ∃ run', ran' run' ∧ run ⊆ run') (sub : run ⊆ run') :
    Vouched parts ran' flag value run' p := by
  induction h generalizing run' with
  | answered hp hcall hvalid hvalue => exact .answered hp (sub hcall) hvalid hvalue
  | asked _ ih => exact .asked (ih sub)
  | kept hearlier _ ih =>
    obtain ⟨earlier', hearlier', sub'⟩ := hran _ hearlier
    exact .kept hearlier' (ih sub')
  | isolated _ hv ih => exact .isolated (ih sub) fun v hmem => (hv v hmem).of_subset sub
  | member hx _ hv ih => exact .member hx (ih sub) fun v hmem => (hv v hmem).of_subset sub

/-- Every value in the cache of a provider is vouched for by a run. -/
def Store.Vouches (parts : Parts) (front : Fronts) (ran : List Call → Prop) (s : Store) : Prop :=
  ∀ owner digest p, front owner = some (digest, p) →
    (s.caches owner).Filled digest fun _ flag _ r =>
      ∃ run, ran run ∧ Vouched parts ran flag r.value run p

namespace Store.Vouches

variable {s s' : Store}

theorem of_empty
    (h : ∀ owner, (front owner).isSome → ∃ settings, s.caches owner = .ofSettings settings) :
    s.Vouches parts front ran := by
  intro owner digest p hfront
  obtain ⟨settings, hempty⟩ := h owner (by rw [hfront]; rfl)
  rw [hempty]
  exact Cache.filled_ofSettings settings

theorem forgets (h : s.Vouches parts front ran) (hs : s.Forgets s') : s'.Vouches parts front ran :=
  fun owner digest p hfront key detail hheld => h owner digest p hfront key detail (hs _ _ _ hheld)

theorem mono (h : s.Vouches parts front ran)
    (hran : ∀ run, ran run → ∃ run', ran' run' ∧ run ⊆ run') : s.Vouches parts front ran' := by
  intro owner digest p hfront
  refine (h owner digest p hfront).mono ?_
  rintro t flag c r ⟨run, hrun, hvouched⟩
  obtain ⟨run', hrun', sub⟩ := hran run hrun
  exact ⟨run', hrun', hvouched.mono hran sub⟩

end Store.Vouches

/-- The recorded runs and the one that is under way. -/
def Known (ran : List Call → Prop) (past : List Call) : List Call → Prop := fun run =>
  ran run ∨ run = past

theorem Known.longer {past run : List Call} (h : Known ran past run) (more : List Call) :
    ∃ run', Known ran (past ++ more) run' ∧ run ⊆ run' := by
  rcases h with h | rfl
  · exact ⟨run, .inl h, List.Subset.refl run⟩
  · exact ⟨run ++ more, .inr rfl, List.subset_append_left run more⟩

/-- What caches hold while a run is under way. -/
def Vouching (parts : Parts) (front : Fronts) (ran : List Call → Prop) (past : List Call)
    (s : Store) : Prop := s.Vouches parts front (Known ran past)

theorem lasting_vouching : Lasting (Vouching parts front ran) where
  forgets h hs := Store.Vouches.forgets h hs
  longer h more := Store.Vouches.mono h fun _ hrun => hrun.longer more

/-- Foreign code only puts into caches what is vouched for. Code that leaves caches alone, or makes
them forget, does so for no runs of its own. -/
def Parts.Faithful (parts : Parts) (front : Fronts) (nested : List Call → Prop) : Prop :=
  ∀ q : Request, q.Of parts → ∀ ran : List Call → Prop, (∀ run, nested run → ran run) →
    ∀ s : Store, s.Vouches parts front ran → (q.perform.on s).2.Vouches parts front ran

theorem Parts.faithful_of_forgets
    (h : ∀ q : Request, q.Of parts → ∀ s : Store, s.Forgets (q.perform.on s).2) :
    parts.Faithful front fun _ => False := fun q hq _ _ s hs => hs.forgets (h q hq s)

theorem Parts.Faithful.keep (h : parts.Faithful front nested)
    (hnested : ∀ run, nested run → ran run) : parts.Keep (Vouching parts front ran) :=
  fun q hq _ s hs => lasting_vouching.longer
    (h q hq _ (fun run hrun => .inl (hnested run hrun)) s hs) _

/-! ## Compositions -/

/-- An answer of a provider that is vouched for, unless it has an error. -/
def Provider.Vouches (parts : Parts) (ran : List Call → Prop) (p : Provider) (flag : String)
    (r : Resolution t.Value) (past : List Call) : Prop :=
  r.error = none → Vouched parts (Known ran past) flag r.value past p

theorem Provider.grows_vouches (p : Provider) (flag : String) (r : Resolution t.Value) :
    Grows (p.Vouches parts ran flag r) := fun past more h hvalid =>
  (h hvalid).mono (fun _ hrun => hrun.longer more) (List.subset_append_left past more)

/-- A value that the hooks of an evaluation let pass was accepted by the validators among them. -/
theorem Lifecycle.Outcome.accepted {hooks : List Hook} {default : t.Value}
    {A : Resolution t.Value → List Call → Prop} {r : Resolution t.Value} {past : List Call}
    (h : Outcome hooks flag default A r past) (hvalid : r.error = none) :
    A r past ∧ ∀ v : Validator, v.hook ∈ hooks → v.Accepted flag (t.toJson r.value) past := by
  rcases h with ⟨e, rfl⟩ | ⟨hr, hpassed⟩
  · cases hvalid
  · exact ⟨hr, fun v hmem => Validator.accepted_of_passed (hpassed hvalid v.hook hmem)⟩

/-- What is put into the cache of a provider is vouched for by the run that is under way. -/
theorem Vouching.remembered {owner : Nat} {digest : String → String} {c : Context}
    {r : Resolution t.Value} {past : List Call} {s : Store} (h : Vouching parts front ran past s)
    (hown : front.Own owner digest p) (hr : p.Vouches parts ran flag r past) :
    Vouching parts front ran past
      (Cache.remembered owner (Cache.key digest flag t c) r.toJson s) := by
  intro owner' digest' p' hfront
  by_cases howner : owner' = owner
  · subst howner
    obtain ⟨rfl, rfl⟩ := Prod.mk.inj (Option.some.inj (hown.2.symm.trans hfront))
    rw [Cache.remembered_caches]
    exact (h _ _ _ hfront).insert (fun hvalid => ⟨past, .inr rfl, hr hvalid⟩) s.now
  · rw [Cache.remembered_caches_ne howner]
    exact h owner' digest' p' hfront

/-- What is found in the cache of a provider is vouched for by a run that is known. -/
theorem Vouching.found {owner : Nat} {digest : String → String} {c : Context}
    {r : Resolution t.Value} {past : List Call} {s : Store} (h : Vouching parts front ran past s)
    (hown : front.Own owner digest p) (hfound : Cache.found? digest owner t flag c s = some r) :
    (Provider.cached digest owner p).Vouches parts ran flag r past := by
  obtain ⟨-, -, -, run, hrun, hvouched⟩ := (h _ _ _ hown.2).found hown.1 hfound
  exact fun _ => .kept hrun hvouched

/-- That answers are vouched for is handed on by all that is put around a provider. -/
theorem Provider.handed_vouches (hparts : parts.Faithful front nested)
    (hnested : ∀ run, nested run → ran run) (default : t.Value) :
    Provider.Handed (Vouching parts front ran) parts front.Own flag default
      fun p r past => p.Vouches parts ran flag r past where
  grows p r := p.grows_vouches flag r
  backend p hp c := by
    have hcall := hparts.keep hnested (.resolve t (p.resolve t flag default) c)
      ⟨p, flag, default, hp, rfl⟩
    refine (Yields.request _ hcall).post ?_
    rintro r past ⟨hmem, -⟩ hvalid
    exact .answered hp hmem hvalid rfl
  put owner digest p hown c past s r hs hr :=
    ⟨hs.remembered hown hr, fun hvalid => .asked (hr hvalid)⟩
  hit owner digest p hown c past s r hs hfound := by
    have hkept : (Provider.cached digest owner p).Vouches parts ran flag r past :=
      hs.found hown hfound
    exact hkept
  isolated i r past h hvalid := by
    obtain ⟨hvouched, haccepted⟩ := h.accepted hvalid
    exact .isolated (hvouched hvalid) haccepted
  combined m r past h hvalid := by
    rcases h with ⟨e, rfl⟩ | ⟨x, hx, r₀, hr₀, rfl⟩
    · cases hvalid
    · obtain ⟨hvouched, haccepted⟩ := hr₀.accepted hvalid
      exact .member hx (hvouched hvalid) haccepted

/-- What a provider answers without an error is vouched for, by this run or below a cache by the run
that the cache has it from. -/
theorem Nested.vouches (h : Nested parts front.Own p) (hparts : parts.Faithful front nested)
    (hnested : ∀ run, nested run → ran run) (default : t.Value) (c : Context) :
    Yields (Vouching parts front ran) (fun _ => True) (p.resolve t flag default c)
      (p.Vouches parts ran flag) :=
  h.yields lasting_vouching (hparts.keep hnested)
    (Provider.handed_vouches hparts hnested default) c

/-! ## Evaluations in sequence -/

/-- The runs of episodes, each a chain of calls from the store in which it starts. -/
inductive Episode.Recorded : Store → List Episode → List (List Call) → Prop where
  | nil (s : Store) : Recorded s [] []
  | cons {s : Store} {e : Episode} {rest : List Episode} {run : List Call} {runs : List (List Call)}
    (h : Chain Store.Internal (e.meanwhile s) run (e.next s))
    (hrest : Recorded (e.next s) rest runs) :
    Recorded s (e :: rest) (run :: runs)

theorem Episode.exists_recorded (hparts : parts.Faithful front nested) {episodes : List Episode}
    (hover : ∀ e ∈ episodes, e.operation.Over parts front.Own) {s : Store}
    {past : List (List Call)} (hs : s.Vouches parts front fun run => nested run ∨ run ∈ past) :
    ∃ runs, Recorded s episodes runs ∧
      (after s episodes).Vouches parts front fun run => nested run ∨ run ∈ past ++ runs := by
  induction episodes generalizing s past with
  | nil => exact ⟨[], .nil s, by rwa [List.append_nil]⟩
  | cons e rest ih =>
    have hnested : ∀ run, nested run → nested run ∨ run ∈ past := fun _ h => .inl h
    have hstart : Vouching parts front (fun run => nested run ∨ run ∈ past) [] (e.meanwhile s) :=
      (hs.forgets (e.forgets s)).mono fun run hrun => ⟨run, .inl hrun, List.Subset.refl run⟩
    have hrun := Operation.run_yields (hover e List.mem_cons_self) lasting_vouching
      (hparts.keep hnested) (fun p _ flag _ r => p.grows_vouches flag r)
      fun p hp _ _ default c => hp.vouches hparts hnested default c
    obtain ⟨run, hchain, hnext, -⟩ := hrun [] (e.meanwhile s) hstart trivial
    rw [List.nil_append] at hnext
    have hpast : (e.next s).Vouches parts front fun r => nested r ∨ r ∈ past ++ [run] := by
      refine Store.Vouches.mono hnext fun r hr => ⟨r, ?_, List.Subset.refl r⟩
      rcases hr with (hr | hr) | rfl
      · exact .inl hr
      · exact .inr (List.mem_append_left _ hr)
      · exact .inr (List.mem_append_right _ List.mem_cons_self)
    obtain ⟨runs, hrecorded, hafter⟩ := ih (fun o ho => hover o (List.mem_cons_of_mem e ho)) hpast
    refine ⟨run :: runs, .cons hchain hrecorded, ?_⟩
    rwa [List.append_assoc, List.singleton_append] at hafter

/-- Behind any evaluations: a value that a client returns without an error was accepted by every
validator of the client, of the call and of the provider in this evaluation, and is vouched for
along its way below the client. Runs are those of the evaluations, and `nested` ones that foreign
code makes by itself. -/
theorem Client.value_accepted (hparts : parts.Faithful front nested) {s s' : Store}
    (hs : ∀ owner, (front owner).isSome → ∃ settings, s.caches owner = .ofSettings settings)
    {earlier : List Episode} (hearlier : ∀ e ∈ earlier, e.operation.Over parts front.Own)
    (hmeanwhile : (Episode.after s earlier).Forgets s') {client : Client} {default : t.Value}
    {context : Option Context} {options : EvaluationOptions}
    (hover : (Operation.evaluate client t flag default context options).Over parts front.Own) :
    ∃ runs calls, Episode.Recorded s earlier runs ∧
      Chain Store.Internal s' calls
        ((client.details t flag default context options).on s').2 ∧
      ∀ details, ((client.details t flag default context options).on s').1 = .ok details →
        details.error = none →
        (∀ v : Validator, v.hook ∈ client.hooks ++ options.hooks ++ client.provider.hooks →
          v.Accepted flag (t.toJson details.value) calls) ∧
        Vouched parts (fun run => nested run ∨ run ∈ runs ∨ run = calls) flag details.value calls
          client.provider := by
  obtain ⟨hforeign, hprovider⟩ := hover
  have hempty : s.Vouches parts front fun run => nested run ∨ run ∈ [] := .of_empty hs
  obtain ⟨runs, hrecorded, hafter⟩ := Episode.exists_recorded hparts hearlier hempty
  rw [List.nil_append] at hafter
  have hnested : ∀ run, nested run → nested run ∨ run ∈ runs := fun _ h => .inl h
  have hkeep : parts.Keep (Vouching parts front fun run => nested run ∨ run ∈ runs) :=
    hparts.keep hnested
  have hstart : Vouching parts front (fun run => nested run ∨ run ∈ runs) [] s' :=
    (hafter.forgets hmeanwhile).mono fun run hrun => ⟨run, .inl hrun, List.Subset.refl run⟩
  have hrun := details_yields lasting_vouching (hprovider.regular lasting_vouching hkeep) options
    (fun hook hmem => hkeep.hook (hforeign hook hmem)) (client.provider.grows_vouches flag)
    (hprovider.vouches hparts hnested default) context
  obtain ⟨calls, hchain, -, houtcome⟩ := hrun [] s' hstart trivial
  refine ⟨runs, calls, hrecorded, hchain, fun details hdetails hvalid => ?_⟩
  obtain ⟨hvouched, haccepted⟩ := (houtcome details hdetails).accepted hvalid
  refine ⟨haccepted, (hvouched hvalid).mono (fun run hknown => ⟨run, ?_, List.Subset.refl run⟩)
    (List.Subset.refl _)⟩
  rcases hknown with (hknown | hknown) | hknown
  · exact .inl hknown
  · exact .inr (.inl hknown)
  · exact .inr (.inr hknown)

namespace Validator

/-- Accepts nothing but true. -/
def onlyTrue : Validator := oneOf [.bool true]

/-- A fixed answer with a validator around it, and no other parts. -/
def onlyTrueParts : Parts where
  hooks hook := hook = onlyTrue.hook
  backends p := p = .hooked "a" onlyTrue.hook
  observers _ := False

theorem onlyTrueParts_faithful : onlyTrueParts.Faithful front fun _ => False := by
  refine Parts.faithful_of_forgets fun q hq s => ?_
  cases q with
  | before hook | error hook | atEnd hook =>
    obtain rfl : hook = onlyTrue.hook := hq
    exact fun _ _ _ h => h
  | after hook seen details hints =>
    obtain rfl : hook = onlyTrue.hook := hq
    change s.Forgets ((onlyTrue.hook.after seen details hints).on s).2
    rw [Validator.hook]
    dsimp only
    cases onlyTrue details with
    | ok => exact fun _ _ _ h => h
    | error => exact fun _ _ _ h => h
  | status p =>
    obtain rfl : p = .hooked "a" onlyTrue.hook := hq
    exact fun _ _ _ h => h
  | resolve t ask c =>
    obtain ⟨p, flag, default, hp, rfl⟩ := hq
    obtain rfl : p = .hooked "a" onlyTrue.hook := hp
    exact fun _ _ _ h => h
  | mismatch => exact hq.elim

end Validator

/-- One member with a validator around it. -/
def Multi.validated : Multi :=
  ⟨[⟨"a", .new 0 (.hooked "a" Validator.onlyTrue.hook) []⟩], .firstMatch⟩

/-- A client with a validator of its own, in front of a cache. -/
def Client.validating : Client :=
  { provider := .cached Md5.hex 0 Multi.validated.toProvider, hooks := [Validator.onlyTrue.hook] }

/-- The second of two evaluations, which is answered from the cache. -/
theorem Client.value_accepted_cached :
    let first : Episode := ⟨id, fun _ _ _ _ h => h, .evaluate validating .boolean "f" false none {}⟩
    let s := Episode.after (Store.fresh 0) [first]
    ∃ runs calls details, Episode.Recorded (Store.fresh 0) [first] runs ∧
      Chain Store.Internal s calls ((validating.details .boolean "f" true none {}).on s).2 ∧
      ((validating.details .boolean "f" true none {}).on s).1 = .ok details ∧
      details.reason = some .cached ∧ Validator.onlyTrue.Accepted "f" (.bool details.value) calls ∧
      Vouched Validator.onlyTrueParts (fun run => False ∨ run ∈ runs ∨ run = calls) "f"
        details.value calls validating.provider := by
  intro first s
  have hcached : (((validating.details .boolean "f" true none {}).on s).1.toOption.any fun d =>
      d.error.isNone && decide (d.reason = some .cached)) = true := by decide +kernel
  obtain ⟨details, hdetails, hvalid, hreason⟩ : ∃ details,
      ((validating.details .boolean "f" true none {}).on s).1 = .ok details ∧
        details.error = none ∧ details.reason = some .cached := by
    rcases hrun : ((validating.details .boolean "f" true none {}).on s).1 with e | details
    · rw [hrun] at hcached
      cases hcached
    · rw [hrun] at hcached
      obtain ⟨hvalid, hreason⟩ := Bool.and_eq_true_iff.1 hcached
      exact ⟨details, rfl, Option.isNone_iff_eq_none.1 hvalid, of_decide_eq_true hreason⟩
  let front : Fronts := fun owner =>
    if owner = 0 then some (Md5.hex, Multi.validated.toProvider) else none
  have hhook : ∀ hook ∈ [Validator.onlyTrue.hook], Validator.onlyTrueParts.hooks hook :=
    fun _ h => List.mem_singleton.1 h
  have hmember : Nested Validator.onlyTrueParts front.Own (.hooked "a" Validator.onlyTrue.hook) :=
    .backend rfl hhook
  have hprovider : Nested Validator.onlyTrueParts front.Own validating.provider := by
    refine .cached ⟨Cache.plain_hex, rfl⟩ (.combined ?_ (fun _ h => nomatch h) ?_)
    · exact List.forall_mem_singleton.2
        (isolates_new trivial _ fun _ h => absurd h List.not_mem_nil)
    · exact List.forall_mem_singleton.2 hmember
  have hover (default : Bool) : (Operation.evaluate validating .boolean "f" default none {}).Over
      Validator.onlyTrueParts front.Own := ⟨hhook, hprovider⟩
  have hearlier : ∀ e ∈ [first], e.operation.Over Validator.onlyTrueParts front.Own :=
    List.forall_mem_singleton.2 (hover false)
  have hfresh : ∀ owner, (front owner).isSome →
      ∃ settings, (Store.fresh 0).caches owner = .ofSettings settings := fun _ _ => ⟨{}, rfl⟩
  obtain ⟨runs, calls, hrecorded, hchain, hall⟩ := value_accepted
    Validator.onlyTrueParts_faithful hfresh hearlier (fun _ _ _ h => h) (hover true)
  obtain ⟨haccepted, hvouched⟩ := hall details hdetails hvalid
  exact ⟨runs, calls, details, hrecorded, hchain, hdetails, hreason,
    haccepted _ List.mem_cons_self, hvouched⟩

end FeatureFlags
