import FeatureFlags.Proofs.Client
import FeatureFlags.Proofs.Lifecycle.Seen
import FeatureFlags.Proofs.Multi.Turns

/-!
# Isolated members

The hooks of a member change the context of that member's evaluations and of nothing else. A
member's provider is asked in what the member's own hooks made of the context of the combined
provider, whatever hooks the other members have; and what client and invocation hooks see comes from
client and invocation hooks alone.
-/
namespace FeatureFlags

/-- What `before` of a hook answers depends on nothing but what the hook is handed. -/
def Hook.Oblivious (hook : Hook) : Prop :=
  ∀ hc hints s s', ((hook.before hc hints).on s).1 = ((hook.before hc hints).on s').1

/-- A hook that adds to the context. -/
def Hook.adding (more : Context) : Hook := { before := fun _ _ => return .ok (some more) }

/-- A hook that fails before the evaluation. -/
def Hook.failing (e : EvaluationError) : Hook := { before := fun _ _ => return .error e }

theorem Hook.oblivious_adding (more : Context) : (adding more).Oblivious := fun _ _ _ _ => rfl

namespace Lifecycle

/-- Hooks that are handed the same return the same, if they look at nothing else. -/
theorem begun_unique {hints : Hints} {hc : HookContext} {s s' s₁ s₁' : Store}
    {own : Store → Store → Prop} {l l' : List Call}
    (h : Chain own s l s₁) (h' : Chain own s' l' s₁')
    {passed passed' : List (Hook × Option Context)} (hl : begun hints hc passed ⊆ l)
    (hl' : begun hints hc passed' ⊆ l')
    (hooks : passed.map (·.1) = passed'.map (·.1)) (oblivious : ∀ p ∈ passed, p.1.Oblivious) :
    passed = passed' := by
  induction passed generalizing hc passed' with
  | nil => exact (List.map_eq_nil_iff.1 hooks.symm).symm
  | cons p rest ih =>
    obtain ⟨hook, more⟩ := p
    cases passed' with
    | nil => cases hooks
    | cons p' rest' =>
      obtain ⟨hook', more'⟩ := p'
      obtain ⟨rfl, hrest⟩ := List.cons.inj hooks
      obtain ⟨s₂, s₃, hmade⟩ := h.made (hl List.mem_cons_self)
      obtain ⟨s₂', s₃', hmade'⟩ := h'.made (hl' List.mem_cons_self)
      have hanswer := oblivious _ List.mem_cons_self hc hints s₂ s₂'
      have hmore : more = more' := by
        have ho := congrArg Prod.fst hmade
        have ho' := congrArg Prod.fst hmade'
        have := ho.symm.trans (hanswer.trans ho')
        exact Except.ok.inj (Except.ok.inj this)
      subst hmore
      rw [ih (List.subset_of_cons_subset hl) (List.subset_of_cons_subset hl') hrest
        fun p hp => oblivious p (List.mem_cons_of_mem _ hp)]

end Lifecycle

namespace Multi

variable {t : FlagType} {flag : String} {default : t.Value} {c : Context}

namespace Turn

/-- The provider of the member is asked in a context. -/
def AskedIn (τ : Turn t) (context : Context) : Prop :=
  ∃ call ∈ τ.calls, call.request.isResolve = true ∧ call.request.context? = some context

/-- The provider of the member is asked only when all hooks of the member have passed, and in a
context that says what the context of the evaluation says, completed by what they returned. -/
def OwnContext (flag : String) (default : t.Value) (c : Context) (τ : Turn t) : Prop :=
  ∀ l₁ call l₂, τ.calls = l₁ ++ call :: l₂ → call.request.isResolve = true →
    ∃ (passed : List (Hook × Option Context)) (context : Context),
      τ.member.isolator.hooks = passed.map (·.1) ∧
      l₁ = Lifecycle.begun (τ.captured.getD .none).hints
        (τ.member.isolator.hookContext τ.captured t flag default c) passed ∧
      call.request = .resolve t (τ.member.isolator.provider.resolve t flag default) context ∧
      context.Same (Context.merge (c :: passed.filterMap (·.2)))

variable {τ : Turn t}

theorem Played.asked (h : τ.Played flag default c) {l₁ l₂ : List Call} {call : Call}
    (hl : τ.calls = l₁ ++ call :: l₂) (hcall : call.request.isResolve = true) :
    ∃ passed, τ.member.isolator.hooks = passed.map (·.1) ∧
      l₁ = Lifecycle.begun (τ.captured.getD .none).hints
        (τ.member.isolator.hookContext τ.captured t flag default c) passed ∧
      call.request = .resolve t (τ.member.isolator.provider.resolve t flag default)
        (Lifecycle.gathered (τ.member.isolator.hookContext τ.captured t flag default c)
          passed).context := by
  rw [Played, hl] at h
  obtain ⟨call', l, r, hrequest, hcourse⟩ := h.place
  rw [← hrequest] at hcall ⊢
  exact hcourse.asked hcall

theorem Played.ownContext (h : τ.Played flag default c) : τ.OwnContext flag default c := by
  intro l₁ call l₂ hl hcall
  obtain ⟨passed, hhooks, hl₁, hrequest⟩ := h.asked hl hcall
  refine ⟨passed, _, hhooks, hl₁, hrequest, ?_⟩
  rw [← (Lifecycle.sees_begun (τ.captured.getD .none).hints _ passed).2,
    ← Lifecycle.returned_begun (τ.captured.getD .none).hints
      (τ.member.isolator.hookContext τ.captured t flag default c) passed]
  exact Call.foldl_enrich_same c _

end Turn

namespace Play

variable {m m' : Multi} {s s' : Store} {turns turns' : List (Turn t)} {τ τ' : Turn t}

theorem captured (h : m.Play flag default c s turns)
    (hnodup : (m.members.map (·.isolator.owner)).Nodup) (hτ : τ ∈ turns) :
    τ.captured = τ.member.isolator.holding s flag t := by
  have hseat := h.seats.subset (List.mem_map_of_mem hτ)
  rw [seats_of_nodup s hnodup] at hseat
  obtain ⟨x, -, hx⟩ := List.mem_map.1 hseat
  obtain ⟨rfl, hheld⟩ := Prod.mk.inj hx
  exact hheld.symm

theorem calls_made (h : m.Play flag default c s turns) (hτ : τ ∈ turns) :
    ∃ l s₁, Chain Store.Internal s l s₁ ∧ τ.calls ⊆ l := by
  obtain ⟨told, -, hchain⟩ := h.chain
  refine ⟨_, _, hchain, fun call hcall => List.mem_append_left _ ?_⟩
  exact List.mem_flatMap.2 ⟨τ, hτ, hcall⟩

/-- Two runs with one member in common, whose hooks look at nothing but what they are handed: if the
member held the same in both, its provider is asked in the same context. The other members, their
hooks and the strategies may differ in any way. -/
theorem same_context (h : m.Play flag default c s turns) (h' : m'.Play flag default c s' turns')
    (hnodup : (m.members.map (·.isolator.owner)).Nodup)
    (hnodup' : (m'.members.map (·.isolator.owner)).Nodup)
    (hτ : τ ∈ turns) (hτ' : τ' ∈ turns')
    (hmember : τ.member.isolator = τ'.member.isolator)
    (hheld : τ.member.isolator.holding s flag t = τ'.member.isolator.holding s' flag t)
    (oblivious : ∀ hook ∈ τ.member.isolator.hooks, hook.Oblivious) {context context' : Context}
    (hasked : τ.AskedIn context) (hasked' : τ'.AskedIn context') : context = context' := by
  have hcaptured : τ.captured = τ'.captured := by
    rw [h.captured hnodup hτ, h'.captured hnodup' hτ', hheld]
  obtain ⟨call, hmem, hcall, hcontext⟩ := hasked
  obtain ⟨call', hmem', hcall', hcontext'⟩ := hasked'
  obtain ⟨l₁, l₂, hl⟩ := List.append_of_mem hmem
  obtain ⟨l₁', l₂', hl'⟩ := List.append_of_mem hmem'
  obtain ⟨passed, hhooks, hbegun, hrequest⟩ := (h.played τ hτ).asked hl hcall
  obtain ⟨passed', hhooks', hbegun', hrequest'⟩ := (h'.played τ' hτ').asked hl' hcall'
  obtain ⟨calls, s₁, hchain, hsub⟩ := h.calls_made hτ
  obtain ⟨calls', s₁', hchain', hsub'⟩ := h'.calls_made hτ'
  rw [← hmember] at hhooks'
  rw [← hmember, ← hcaptured] at hbegun' hrequest'
  have hmade : l₁ ⊆ calls := fun x hx => hsub (hl ▸ List.mem_append_left _ hx)
  have hmade' : l₁' ⊆ calls' := fun x hx => hsub' (hl' ▸ List.mem_append_left _ hx)
  rw [hbegun] at hmade
  rw [hbegun'] at hmade'
  have hpassed : passed = passed' := by
    refine Lifecycle.begun_unique hchain hchain' hmade hmade' (hhooks.symm.trans hhooks') ?_
    intro p hp
    exact oblivious _ (hhooks ▸ List.mem_map_of_mem hp)
  rw [hrequest] at hcontext
  rw [hrequest', ← hpassed] at hcontext'
  exact (Option.some.inj hcontext).symm.trans (Option.some.inj hcontext')

end Play

/-- The isolators of members return no context. -/
theorem returned_none_of_mem_hooks {m : Multi} {hook : Hook} (h : hook ∈ m.toProvider.hooks)
    {call : Call} {seen : HookContext} {hints : Hints}
    (hcall : call.request = .before hook seen hints) {s s' : Store}
    (hmade : call.request.perform.on s = (call.outcome, s')) : call.returned? = none := by
  obtain ⟨x, -, rfl⟩ := List.mem_map.1 h
  obtain ⟨request, outcome⟩ := call
  subst hcall
  obtain rfl : (.ok (.ok none) : Except Crash _) = outcome := congrArg Prod.fst hmade
  rfl

/-- Every call of an evaluation by a client is handed what the context of the evaluation says,
completed by what client and invocation hooks returned. -/
def ClientContexts (client : Client) (context : Option Context) (options : EvaluationOptions)
    (calls : List Call) : Prop :=
  ∀ l₁ call l₂, calls = l₁ ++ call :: l₂ → ∀ c, call.request.context? = some c →
    c.Same (Context.merge (client.evaluationContext context :: l₁.filterMap Call.returned?)) ∧
    ∀ earlier ∈ l₁, earlier.returned? ≠ none →
      ∃ hook ∈ client.hooks ++ options.hooks, ∃ seen hints,
        earlier.request = .before hook seen hints

theorem clientContexts_of_ends {m : Multi} {client : Client}
    (hm : client.provider.hooks = m.toProvider.hooks) {context : Option Context}
    {options : EvaluationOptions} {calls : List Call}
    {outcome : Except Crash (Resolution t.Value)} {s s' : Store}
    (hchain : Chain Store.Logged s calls s')
    (hends : Ends (Lifecycle.Course (client.allHooks options)
      (client.hookContext flag default context) options.hints default
      (client.resolve t flag default)) calls outcome) :
    ClientContexts client context options calls := by
  intro l₁ call l₂ hl c hc
  subst hl
  obtain ⟨call', l, r, hrequest, hcourse⟩ := hends.place
  rw [← hrequest] at hc
  constructor
  · rw [hcourse.sees.context hc]
    exact Call.foldl_enrich_same _ l₁
  · intro earlier hearlier hreturned
    obtain ⟨hook, hhook, seen, hbefore⟩ :=
      hcourse.returned (List.mem_append_left _ hearlier) hreturned
    rcases List.mem_append.1 hhook with hhook | hhook
    · exact ⟨hook, hhook, seen, _, hbefore⟩
    · rw [hm] at hhook
      obtain ⟨s₁, s₂, hmade⟩ := hchain.made (List.mem_append_left _ hearlier)
      exact absurd (returned_none_of_mem_hooks hhook hbefore hmade) hreturned

/-! ## One member in two combinations -/

/-- A provider that knows every flag, with a hook around it. -/
def Member.around (owner : Nat) (hook : Hook) : Member where
  name := "member"
  isolator := .new owner
    { name := "provider", hooks := [hook], resolve := fun _ _ default _ => return .ofValue default }
    []

/-- The turn of a member whose hook adds to the context. -/
def Turn.adding (owner : Nat) (more : Context) (flag : String) (c : Context) : Turn .boolean :=
  let member := Member.around owner (.adding more)
  let seen := member.isolator.hookContext none .boolean flag false c
  let passed := [(Hook.adding more, some more)]
  let gathered := Lifecycle.gathered seen passed
  let resolve := member.isolator.provider.resolve .boolean flag false
  let r : Resolution FlagType.boolean.Value := .ofValue false
  { member
    captured := none
    calls := Lifecycle.begun .empty seen passed ++
      (⟨.resolve .boolean resolve gathered.context, .ok r⟩ ::
        Lifecycle.approved gathered (r.toJson.of gathered.flag) .empty [.adding more]) ++
      Lifecycle.ended [.adding more] gathered r .empty
    outcome := .ok r }

/-- The turn of a member whose hook fails. -/
def Turn.failing (owner : Nat) (e : EvaluationError) (flag : String) (c : Context) :
    Turn .boolean :=
  let member := Member.around owner (.failing e)
  let seen := member.isolator.hookContext none .boolean flag false c
  let r : Resolution FlagType.boolean.Value := .failed false e
  { member
    captured := none
    calls := ⟨.before (.failing e) seen .empty, .ok (.error e)⟩ ::
      (Lifecycle.told [.failing e] seen e .empty ++ Lifecycle.ended [.failing e] seen r .empty)
    outcome := .ok r }

/-- A member whose hook adds to the context. -/
def alone (more : Context) : Multi := ⟨[.around 0 (.adding more)], .firstMatch⟩

/-- The same member behind one whose hook fails. -/
def besideFailing (more : Context) (e : EvaluationError) : Multi :=
  ⟨[.around 1 (.failing e), .around 0 (.adding more)], .firstSuccess⟩

section

variable (more : Context) (e : EvaluationError) (owner : Nat) (flag : String) (c : Context)
  (s : Store)

theorem Turn.adding_played : (adding owner more flag c).Played flag false c := by
  refine .returned ?_
  refine @Lifecycle.Course.settled .boolean _ _ _ _ _ [(.adding more, some more)] rfl _ _ ?_
  exact .accepted rfl

theorem Turn.failing_played : (failing owner e flag c).Played flag false c := by
  refine .returned ?_
  exact @Lifecycle.Course.stopped .boolean _ _ _ _ _ [] (.failing e) [] rfl e

/-- Neither turn changes the store. -/
theorem Turn.adding_chain : Chain Store.Internal s (adding owner more flag c).calls s :=
  .call rfl (.call rfl (.call rfl (.call rfl (.done s))))

theorem Turn.failing_chain : Chain Store.Internal s (failing owner e flag c).calls s :=
  .call rfl (.call rfl (.call rfl (.done s)))

/-- The member whose hook adds to the context is asked in what that hook made of it. -/
theorem Turn.adding_asked :
    (adding owner more flag c).AskedIn (Context.merge [c, more]) :=
  ⟨_, List.mem_cons_of_mem _ List.mem_cons_self, rfl, rfl⟩

theorem play_alone :
    (alone more).Play (t := .boolean) flag false c (.fresh 0) [.adding 0 more flag c] where
  seats := List.prefix_rfl
  goesOn _ h := absurd h List.not_mem_nil
  ends := .inl rfl
  played _ h := List.mem_singleton.1 h ▸ Turn.adding_played ..
  chain := by
    have hadding := Turn.adding_chain more 0 flag c (.fresh 0)
    have hown : (Store.fresh 0).Internal
      (((alone more).evaluate .boolean flag false c).on (.fresh 0)).2 := rfl
    exact ⟨[], told_nil, hadding.append (.of_own hown)⟩

theorem play_besideFailing :
    (besideFailing more e).Play (t := .boolean) flag false c (.fresh 0)
      [.failing 1 e flag c, .adding 0 more flag c] where
  seats := List.prefix_rfl
  goesOn _ h := List.mem_singleton.1 h ▸ rfl
  ends := .inl rfl
  played _ h := by
    rcases List.mem_cons.1 h with rfl | h
    · exact Turn.failing_played ..
    · exact List.mem_singleton.1 h ▸ Turn.adding_played ..
  chain := by
    have hfailing := Turn.failing_chain e 1 flag c (.fresh 0)
    have hadding := Turn.adding_chain more 0 flag c (.fresh 0)
    have hown : (Store.fresh 0).Internal
      (((besideFailing more e).evaluate .boolean flag false c).on (.fresh 0)).2 := rfl
    exact ⟨[], told_nil, hfailing.append (hadding.append (.of_own hown))⟩

end

/-- Members are isolated. In every run of a combined provider each member that takes a turn is asked
in its own context; for two runs that have a member in common that context is the same, whatever the
other members are; and in an evaluation by a client over the combined provider, or over a cache in
front of it, no call is handed anything that hooks of a member returned. -/
theorem members_isolated (m : Multi) (flag : String) (default : t.Value) :
    (∀ c s, ∃ turns, m.Play flag default c s turns ∧
      ∀ τ ∈ turns, τ.OwnContext flag default c) ∧
    (∀ (m' : Multi) c s s' turns turns',
      m.Play flag default c s turns → m'.Play flag default c s' turns' →
      (m.members.map (·.isolator.owner)).Nodup → (m'.members.map (·.isolator.owner)).Nodup →
      ∀ τ ∈ turns, ∀ τ' ∈ turns', τ.member.isolator = τ'.member.isolator →
      τ.member.isolator.holding s flag t = τ'.member.isolator.holding s' flag t →
      (∀ hook ∈ τ.member.isolator.hooks, hook.Oblivious) →
      ∀ context context', τ.AskedIn context → τ'.AskedIn context' → context = context') ∧
    (∀ client : Client, client.provider.hooks = m.toProvider.hooks → ∀ context options s,
      ∃ calls outcome,
      Chain Store.Logged s calls ((client.details t flag default context options).on s).2 ∧
      Ends (Lifecycle.Course (client.allHooks options) (client.hookContext flag default context)
        options.hints default (client.resolve t flag default)) calls outcome ∧
      ClientContexts client context options calls) := by
  refine ⟨fun c s => ?_, ?_, ?_⟩
  · obtain ⟨turns, hplay⟩ := exists_play m flag default c s
    exact ⟨turns, hplay, fun τ hτ => (hplay.played τ hτ).ownContext⟩
  · intro m' c s s' turns turns' h h' hnodup hnodup' τ hτ τ' hτ' hmember hheld oblivious _ _
    exact h.same_context h' hnodup hnodup' hτ hτ' hmember hheld oblivious
  · intro client hm context options s
    obtain ⟨calls, outcome, hchain, hends, -⟩ :=
      client.details_calls flag default context options s
    exact ⟨calls, outcome, hchain, hends, clientContexts_of_ends hm hchain hends⟩

/-- A member is asked in the same context alone and beside a member whose hook fails. -/
theorem members_isolated_beside_failing :
    let more : Context := ⟨some "user", .empty⟩
    let e := Fault.memberCrashed.error
    ∃ (turns turns' : List (Turn .boolean)) (τ τ' : Turn .boolean) (context context' : Context),
      (alone more).Play "f" false .empty (.fresh 0) turns ∧
      (besideFailing more e).Play "f" false .empty (.fresh 0) turns' ∧
      τ ∈ turns ∧ τ' ∈ turns' ∧ τ.AskedIn context ∧ τ'.AskedIn context' ∧ context = context' := by
  intro more e
  have hplay := play_alone more "f" .empty
  have hplay' := play_besideFailing more e "f" .empty
  have hτ : Turn.adding 0 more "f" .empty ∈ [Turn.adding 0 more "f" .empty] := List.mem_cons_self
  have hτ' : Turn.adding 0 more "f" .empty ∈
      [Turn.failing 1 e "f" .empty, Turn.adding 0 more "f" .empty] :=
    List.mem_cons_of_mem _ List.mem_cons_self
  have hasked := Turn.adding_asked more 0 "f" .empty
  have hsame := (members_isolated (alone more) "f" false).2.1 (besideFailing more e) .empty
    (.fresh 0) (.fresh 0) _ _ hplay hplay' (by decide) (by decide) _ hτ _ hτ' rfl rfl
    (fun _ h => List.mem_singleton.1 h ▸ Hook.oblivious_adding more) _ _ hasked hasked
  exact ⟨_, _, _, _, _, _, hplay, hplay', hτ, hτ', hasked, hasked, hsame⟩

end Multi

end FeatureFlags
