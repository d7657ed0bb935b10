import FeatureFlags.Proofs.Assembly.Basic
import FeatureFlags.Proofs.Client
import FeatureFlags.Proofs.Lifecycle.Seen
import FeatureFlags.Proofs.Multi.Turns
import FeatureFlags.Proofs.Runs
import FeatureFlags.Scripted.Provider

/-!
# The gate in front of the leaves

A client looks at one status, the worst of all leaves of an assembly, before it asks for an answer.
Main statement: no leaf is asked while one is lost, and one that is not ready is asked only beside
one that is in an error, which counts as worse.
-/
namespace FeatureFlags

namespace Status

/-- The worst of some statuses; nothing is wrong with none. -/
def worst (statuses : List Status) : Status := (worst? statuses).getD .ready

theorem severity_worse (a b : Status) : (worse a b).severity = max a.severity b.severity := by
  unfold worse
  split <;> omega

theorem eq_of_severity {a b : Status} (h : a.severity = b.severity) : a = b := by
  revert h
  cases a <;> cases b <;> decide

theorem worse_assoc (a b c : Status) : worse (worse a b) c = worse a (worse b c) := by
  apply eq_of_severity
  simp only [severity_worse]
  omega

theorem ready_worse (a : Status) : worse .ready a = a := by
  cases a <;> rfl

theorem worst_cons (a : Status) (rest : List Status) :
    worst (a :: rest) = worse a (worst rest) := by
  cases rest with
  | nil => cases a <;> rfl
  | cons b rest =>
    show (b :: rest).foldl worse a = worse a (rest.foldl worse b)
    induction rest generalizing b with
    | nil => rfl
    | cons c rest ih =>
      show rest.foldl worse (worse (worse a b) c) = worse a (rest.foldl worse (worse b c))
      rw [worse_assoc]
      exact ih (worse b c)

theorem worst_append (l₁ l₂ : List Status) :
    worst (l₁ ++ l₂) = worse (worst l₁) (worst l₂) := by
  induction l₁ with
  | nil => exact (ready_worse _).symm
  | cons a rest ih => rw [List.cons_append, worst_cons, worst_cons, ih, worse_assoc]

theorem severity_le_worst {a : Status} {l : List Status} (h : a ∈ l) :
    a.severity ≤ (worst l).severity := by
  induction l with
  | nil => cases h
  | cons b rest ih =>
    rw [worst_cons, severity_worse]
    rcases List.mem_cons.1 h with rfl | h
    · exact Nat.le_max_left ..
    · exact Nat.le_trans (ih h) (Nat.le_max_right ..)

theorem worst_mem {l : List Status} (h : worst l ≠ .ready) : worst l ∈ l := by
  induction l with
  | nil => exact absurd rfl h
  | cons b rest ih =>
    rw [worst_cons] at h ⊢
    unfold worse at h ⊢
    split
    · rename_i hlt
      rw [if_pos hlt] at h
      exact List.mem_cons_of_mem b (ih h)
    · exact List.mem_cons_self

/-- Under these statuses answers are asked for: nothing is lost, and what is not ready stands beside
something in an error. -/
def Opens (statuses : List Status) : Prop :=
  fatal ∉ statuses ∧ (notReady ∈ statuses → error ∈ statuses)

/-- Asking is held back when the worst status is that of a provider that is not ready, or lost. -/
theorem opens_iff (statuses : List Status) :
    Opens statuses ↔ worst statuses ≠ .notReady ∧ worst statuses ≠ .fatal := by
  constructor
  · rintro ⟨hfatal, hwaiting⟩
    constructor
    · intro hworst
      have hmem : notReady ∈ statuses := hworst ▸ worst_mem (hworst ▸ by decide)
      have hle := severity_le_worst (hwaiting hmem)
      rw [hworst] at hle
      exact absurd hle (by decide)
    · intro hworst
      exact hfatal (hworst ▸ worst_mem (hworst ▸ by decide))
  · rintro ⟨hwaiting, hfatal⟩
    constructor
    · intro hmem
      have hle := severity_le_worst hmem
      cases hworst : worst statuses with
      | fatal => exact hfatal hworst
      | ready | stale | notReady | error =>
        rw [hworst] at hle
        exact absurd hle (by decide)
    · intro hmem
      have hle := severity_le_worst hmem
      cases hworst : worst statuses with
      | error => exact hworst ▸ worst_mem (hworst ▸ by decide)
      | notReady => exact absurd hworst hwaiting
      | fatal => exact absurd hworst hfatal
      | ready | stale =>
        rw [hworst] at hle
        exact absurd hle (by decide)

end Status

/-! ## Only leaves are asked -/

namespace Call

variable {t : FlagType}

/-- A leaf is asked for a flag. -/
def Asks (leaves : List Provider) (flag : String) (default : t.Value) (call : Call) : Prop :=
  ∃ p ∈ leaves, ∃ c, call.request = .resolve t (p.resolve t flag default) c

/-- A call that asks for an answer asks a leaf. -/
def Within (leaves : List Provider) (flag : String) (default : t.Value) (call : Call) : Prop :=
  call.request.isResolve = true → call.Asks leaves flag default

theorem within_of_unasked {leaves : List Provider} {flag : String} {default : t.Value} {call : Call}
    (h : call.request.isResolve = false) : call.Within leaves flag default := by
  intro hresolve
  rw [h] at hresolve
  cases hresolve

end Call

/-- Calls that ask for no answer. -/
def Unasked (calls : List Call) : Prop := ∀ call ∈ calls, call.request.isResolve = false

section

variable {t : FlagType} {flag : String} {default : t.Value} {leaves : List Provider}

theorem Unasked.within {calls : List Call} (h : Unasked calls) :
    ∀ call ∈ calls, call.Within leaves flag default := fun call hcall =>
  Call.within_of_unasked (h call hcall)

/-- A computation that asks leaves only. -/
abbrev Eval.AsksWithin {α : Type} (leaves : List Provider) (flag : String) (default : t.Value)
    (x : Eval α) : Prop :=
  Runs (Call.Within leaves flag default) (fun _ => True) x (fun _ _ => True) fun _ => True

theorem Eval.asksWithin_of_chain {α : Type} {x : Eval α}
    (h : ∀ s, ∃ calls, Chain Store.Internal s calls (x.on s).2 ∧
      ∀ call ∈ calls, call.Within leaves flag default) : x.AsksWithin leaves flag default :=
  fun s _ => ⟨h s, ended_iff.2 trivial⟩

theorem Eval.AsksWithin.mono {α : Type} {x : Eval α} {leaves' : List Provider}
    (h : x.AsksWithin leaves flag default) (sub : leaves ⊆ leaves') :
    x.AsksWithin leaves' flag default := by
  apply Eval.asksWithin_of_chain
  intro s
  obtain ⟨⟨calls, hchain, hwithin⟩, -⟩ := h s trivial
  refine ⟨calls, hchain, fun call hcall hresolve => ?_⟩
  obtain ⟨p, hp, hasks⟩ := hwithin call hcall hresolve
  exact ⟨p, sub hp, hasks⟩

/-- In an evaluation of what asks leaves only, hooks are called and leaves are asked. -/
theorem Ends.opened {hooks : List Hook} {hc : HookContext} {hints : Hints}
    {resolve : Context → Eval (Resolution t.Value)} {calls : List Call}
    {o : Except Crash (Resolution t.Value)}
    (h : Ends (Lifecycle.Course hooks hc hints default resolve) calls o)
    (hresolve : ∀ c, (resolve c).AsksWithin leaves flag default) :
    ∀ call ∈ calls, call.Within leaves flag default ∨
      ∀ s, ∃ inner, Chain Store.Internal s inner (call.request.perform.on s).2 ∧
        ∀ d ∈ inner, d.Within leaves flag default := by
  intro call hcall
  cases hasks : call.request.isResolve with
  | false => exact .inl (Call.within_of_unasked hasks)
  | true =>
    right
    intro s
    obtain ⟨l₁, l₂, rfl⟩ := List.append_of_mem hcall
    obtain ⟨⟨c, hrequest⟩, -⟩ := h.asks_once hasks
    rw [hrequest]
    exact (hresolve c s trivial).1

namespace Assembly

theorem asksWithin_leaf (p : Provider) (c : Context) :
    (p.resolve t flag default c).AsksWithin [p] flag default := by
  apply Runs.request (.resolve t (p.resolve t flag default) c)
  · intro outcome _
    exact ⟨p, List.mem_singleton_self p, c, rfl⟩
  · intro s _
    exact ended_iff.2 trivial

theorem asksWithin_cached {p : Provider} (digest : String → String) (owner : Nat)
    (h : ∀ c, (p.resolve t flag default c).AsksWithin leaves flag default) (c : Context) :
    ((Provider.cached digest owner p).resolve t flag default c).AsksWithin leaves flag default := by
  have hlook (key : String) : (Cache.lookUp owner key).AsksWithin leaves flag default :=
    Runs.internal fun s _ => ⟨_, _, rfl, rfl, trivial⟩
  have hreport : (Eval.report .trace "serving flag from cache"
      [("flag_key", .text flag)]).AsksWithin leaves flag default :=
    Runs.internal fun s _ => ⟨_, _, rfl, rfl, trivial⟩
  have hremember (key : String) (r : Resolution Json) :
      (Cache.remember owner key r).AsksWithin leaves flag default :=
    Runs.internal fun s _ => ⟨_, _, rfl, rfl, trivial⟩
  refine (hlook _).bind fun found => ?_
  cases found.bind (Cache.typed? t) with
  | some r => exact hreport.bind fun _ => Runs.done _
  | none => exact (h c).bind fun r => (hremember _ _).bind fun _ => Runs.done r

theorem asksWithin_evaluate {i : Isolator}
    (h : ∀ c, (i.provider.resolve t flag default c).AsksWithin leaves flag default)
    (captured : Option Captured) (c : Context) :
    (i.evaluate captured t flag default c).AsksWithin leaves flag default := by
  apply Eval.asksWithin_of_chain
  intro s
  obtain ⟨calls, hchain, hends⟩ := (Lifecycle.evaluate_follows i.hooks
    (i.hookContext captured t flag default c) (captured.getD .none).hints default
    (i.provider.resolve t flag default)).run s
  exact (hchain.mono fun _ _ h => h.internal).refine (hends.opened h)

theorem asksWithin_isolated {i : Isolator}
    (h : ∀ c, (i.provider.resolve t flag default c).AsksWithin leaves flag default) (c : Context) :
    (i.toProvider.resolve t flag default c).AsksWithin leaves flag default := by
  have htake : (i.take? flag t).AsksWithin leaves flag default :=
    Runs.internal fun s _ => ⟨_, _, i.on_take? flag t s, i.released_internal s, trivial⟩
  exact htake.bind fun captured => asksWithin_evaluate h captured c

theorem asksWithin_combined {m : Multi}
    (h : ∀ x ∈ m.members, ∀ c,
      (x.isolator.provider.resolve t flag default c).AsksWithin leaves flag default) (c : Context) :
    (m.toProvider.resolve t flag default c).AsksWithin leaves flag default := by
  apply Eval.asksWithin_of_chain
  intro s
  obtain ⟨turns, hplay⟩ := Multi.exists_play m flag default c s
  obtain ⟨told, htold, hchain⟩ := hplay.chain
  apply hchain.refine
  intro call hcall
  rcases List.mem_append.1 hcall with hcall | hcall
  · obtain ⟨τ, hτ, hcall⟩ := List.mem_flatMap.1 hcall
    have hmember : τ.member ∈ m.members := by
      have hseat := hplay.seats.subset (List.mem_map_of_mem hτ)
      exact Multi.mem_of_mem_seats hseat
    exact (hplay.played τ hτ).opened (h τ.member hmember) call hcall
  · obtain ⟨observer, answers, hrequest⟩ := htold call hcall
    exact .inl (Call.within_of_unasked (hrequest ▸ rfl))

/-- Whatever an assembly does for an answer, it asks its own leaves for one. -/
theorem asksWithin (a : Assembly) (c : Context) :
    (a.provider.resolve t flag default c).AsksWithin a.leaves flag default := by
  induction a generalizing c with
  | leaf p => exact asksWithin_leaf p c
  | cached digest owner inner ih => exact asksWithin_cached digest owner ih c
  | isolated owner inner more ih => exact asksWithin_isolated ih c
  | combined strategy members ih =>
    rw [provider_combined]
    apply asksWithin_combined
    intro x hx c
    obtain ⟨y, hy, rfl⟩ := List.mem_map.1 hx
    apply (ih y hy c).mono
    intro p hp
    rw [leaves_combined]
    exact List.mem_flatMap.2 ⟨y, hy, hp⟩

/-! ## All leaves are looked at -/

/-- The calls in which providers tell their statuses. -/
def statusCalls (answers : List (Provider × Status)) : List Call :=
  answers.map fun a => ⟨.status a.1, .ok a.2⟩

theorem unasked_statusCalls (answers : List (Provider × Status)) :
    Unasked (statusCalls answers) := by
  intro call hcall
  obtain ⟨a, -, rfl⟩ := List.mem_map.1 hcall
  rfl

/-- Every leaf tells its status, in order, and the worst of them is what counts. -/
def Surveyed (leaves : List Provider) (calls : List Call) (status : Status) : Prop :=
  ∃ answers : List (Provider × Status), answers.map (·.1) = leaves ∧ calls = statusCalls answers ∧
    status = Status.worst (answers.map (·.2))

theorem members_surveyed (members : List (String × Nat × Assembly))
    (h : ∀ x ∈ members, Follows Store.Internal x.2.2.provider.status (Surveyed x.2.2.leaves)) :
    Follows Store.Internal ((members.map member).mapM (·.isolator.provider.status))
      fun calls statuses =>
        Surveyed (members.flatMap fun x => x.2.2.leaves) calls (Status.worst statuses) := by
  induction members with
  | nil =>
    refine (Follows.pure []).mono ?_
    rintro _ _ ⟨rfl, rfl⟩
    exact ⟨[], rfl, rfl, rfl⟩
  | cons x rest ih =>
    rw [List.map_cons, List.mapM_cons]
    have hrest := ih fun y hy => h y (List.mem_cons_of_mem x hy)
    refine ((h x List.mem_cons_self).bind fun status => hrest.bind fun statuses =>
      Follows.pure (status :: statuses)).mono ?_
    rintro _ _ ⟨_, status, _, rfl, ⟨answers, hleaves, rfl, rfl⟩,
      _, statuses, _, rfl, ⟨others, hothers, rfl, hworst⟩, rfl, rfl⟩
    refine ⟨answers ++ others, ?_, ?_, ?_⟩
    · rw [List.map_append, hleaves, hothers, List.flatMap_cons]
    · rw [statusCalls, statusCalls, statusCalls, List.map_append, List.append_nil]
    · rw [List.map_append, Status.worst_append, Status.worst_cons, hworst]

/-- The status of an assembly is the worst of its leaves, however they are nested. -/
theorem status_surveyed (a : Assembly) :
    Follows Store.Internal a.provider.status (Surveyed a.leaves) := by
  induction a with
  | leaf p =>
    refine (Follows.request (.status p)).mono ?_
    rintro _ status rfl
    exact ⟨[(p, status)], rfl, rfl, rfl⟩
  | cached digest owner inner ih => exact ih
  | isolated owner inner more ih => exact ih
  | combined strategy members ih =>
    rw [provider_combined, leaves_combined]
    refine ((members_surveyed members ih).bind fun statuses => Follows.pure _).mono ?_
    rintro _ _ ⟨_, statuses, _, rfl, hsurveyed, rfl, rfl⟩
    rw [List.append_nil]
    exact hsurveyed

end Assembly

/-! ## The gate -/

/-- Either no answer is asked for, or all leaves told their statuses before, these open the gate,
and only leaves are asked. -/
inductive Gated (leaves : List Provider) (flag : String) (default : t.Value) :
    List Call → Prop where
  | closed {calls : List Call} (h : Unasked calls) : Gated leaves flag default calls
  | opened {before behind : List Call} {answers : List (Provider × Status)}
    (hbefore : Unasked before) (hleaves : answers.map (·.1) = leaves)
    (hopens : Status.Opens (answers.map (·.2)))
    (hbehind : ∀ call ∈ behind, call.Within leaves flag default) :
    Gated leaves flag default (before ++ Assembly.statusCalls answers ++ behind)

/-- What asks for no answer may stand on both sides. -/
theorem Gated.between {calls l₁ l₂ : List Call} (h : Gated leaves flag default calls)
    (h₁ : Unasked l₁) (h₂ : Unasked l₂) : Gated leaves flag default (l₁ ++ calls ++ l₂) := by
  cases h with
  | closed h => exact .closed (List.forall_mem_append.2 ⟨List.forall_mem_append.2 ⟨h₁, h⟩, h₂⟩)
  | opened hbefore hleaves hopens hbehind =>
    have hfront : Unasked (l₁ ++ _) := List.forall_mem_append.2 ⟨h₁, hbefore⟩
    have hall := List.forall_mem_append.2 ⟨hbehind, h₂.within⟩
    have hgated := Gated.opened hfront hleaves hopens hall
    simpa only [List.append_assoc] using hgated

namespace Assembly

variable (a : Assembly) (name : String) (own : Context) (hooks : List Hook)

theorem resolve_gated (c : Context) (s : Store) :
    ∃ calls, Chain Store.Internal s calls
        (((a.client name own hooks).resolve t flag default c).on s).2 ∧
      Gated a.leaves flag default calls := by
  obtain ⟨calls, hchain, hends⟩ := a.status_surveyed.run s
  rcases hstatus : a.provider.status.on s with ⟨e | status, s₁⟩ <;> rw [hstatus] at hchain hends
  · have hrun : (a.client name own hooks).provider.status.on s = (.error e, s₁) := hstatus
    rw [Client.resolve, Eval.on_bind_error hrun]
    refine ⟨calls, hchain, .closed ?_⟩
    cases hends with
    | @crashed l more q answer status hsurveyed =>
      obtain ⟨answers, -, hcalls, -⟩ := hsurveyed
      have hunasked := unasked_statusCalls answers
      rw [← hcalls] at hunasked
      obtain ⟨hl, hq⟩ := List.forall_mem_append.1 hunasked
      have hlast : q.isResolve = false := hq ⟨q, .ok answer⟩ List.mem_cons_self
      exact List.forall_mem_append.2 ⟨hl, List.forall_mem_singleton.2 hlast⟩
  · cases hends with
    | returned hsurveyed =>
      obtain ⟨answers, hleaves, rfl, hworst⟩ := hsurveyed
      have hrun : (a.client name own hooks).provider.status.on s = (.ok status, s₁) := hstatus
      rw [Client.resolve, Eval.on_bind_ok hrun]
      cases status with
      | notReady | fatal => exact ⟨_, hchain, .closed (unasked_statusCalls answers)⟩
      | ready | stale | error =>
        have hopens : Status.Opens (answers.map (·.2)) := by
          rw [Status.opens_iff, ← hworst]
          decide
        obtain ⟨⟨asked, hasked, hwithin⟩, -⟩ := a.asksWithin c s₁ trivial
        exact ⟨_, hchain.append hasked,
          .opened (fun _ h => absurd h List.not_mem_nil) hleaves hopens hwithin⟩

/-- In an evaluation by a client over any assembly, leaves are asked only behind a look at all of
them: none is lost then, and where one is not ready another one is in an error. -/
theorem leaves_gated (context : Option Context) (options : EvaluationOptions) (s : Store) :
    ∃ calls, Chain Store.Internal s calls
        (((a.client name own hooks).details t flag default context options).on s).2 ∧
      Gated a.leaves flag default calls := by
  obtain ⟨calls, outcome, hchain, hends, -⟩ :=
    (a.client name own hooks).details_calls flag default context options s
  have hchain' := hchain.mono fun _ _ h => h.internal
  by_cases hunasked : Unasked calls
  · exact ⟨calls, hchain', .closed hunasked⟩
  · obtain ⟨call, hcall, hasks⟩ : ∃ call ∈ calls, call.request.isResolve = true := by
      simpa [Unasked] using hunasked
    obtain ⟨l₁, l₂, rfl⟩ := List.append_of_mem hcall
    obtain ⟨⟨c, hrequest⟩, hothers⟩ := hends.asks_once hasks
    obtain ⟨h₁, h₂⟩ := List.forall_mem_append.1 hothers
    -- the one call that asks for an answer is the client's own, in whose place stands what it does
    have hopened (s₁ : Store) : ∃ inner,
        Chain Store.Internal s₁ inner (call.request.perform.on s₁).2 ∧
          Gated a.leaves flag default inner := by
      rw [hrequest]
      exact a.resolve_gated name own hooks c s₁
    obtain ⟨inner, hinner, hgated⟩ := hchain'.replace hopened
    exact ⟨_, hinner, hgated.between h₁ h₂⟩

/-- A leaf that answers every flag and notes what it is asked. -/
def noting (name : String) (owner : Nat) : Provider :=
  Scripted.Wrapping.wrap
    { name := none
      hooks := []
      failStart := none
      startStatus := none
      stopStatus := none
      crashes := false
      channel := some "calls" }
    owner (Scripted.fixed name (.ofValue (.bool true)))

/-- A leaf that is not ready is asked beside one that is in an error. -/
theorem asked_beside_error :
    let a := Assembly.combined .firstMatch
      [("a", 0, .leaf (noting "a" 0)), ("b", 1, .leaf (noting "b" 1))]
    let statuses := [some Status.notReady, some .error]
    let s := { Store.fresh 0 with statuses := fun i => statuses.getD i none }
    ((noting "a" 0).status.on s).1 = .ok .notReady ∧
      (((a.client "" .empty []).details .boolean "f" false none {}).on s).2.journal =
        [("calls", .resolve "a" "f" .boolean (.bool false) .empty)] := ⟨rfl, rfl⟩

end Assembly

end

end FeatureFlags
