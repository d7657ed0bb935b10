import FeatureFlags.Proofs.Client
import FeatureFlags.Proofs.Composition
import FeatureFlags.Scripted.Hook
import FeatureFlags.Scripted.Provider

/-!
# Captures are confined to their evaluation

Clients evaluate flags with a composition, and others ask it directly, one after the other on a
thread. Each time all foreign code that comes to run is asked on behalf of the client that evaluates
(of nobody, if asked directly), and no isolator holds anything behind it.
-/
namespace FeatureFlags

variable {own : Nat → Prop} {parts : Parts}

namespace Serves

variable {client : Client} {owners : List Nat} {t : FlagType}

/-- A client asks its provider or does not, as its status says. -/
theorem askedBy (h : Serves own parts client.provider owners) (home : Nat) (who : Captured)
    (flag : String) (default : t.Value) (c : Context) :
    Runs (Among parts who) (Holding own home owners (some ⟨flag, t, who⟩))
      (client.resolve t flag default c) (fun _ => Loose own home owners) (Clean own home) := by
  have hstatus := h.status who
    (framed_holding : Framed own (Holding own home owners (some ⟨flag, t, who⟩)))
  refine Runs.bind (hstatus.mono (fun _ hs => hs) (fun _ _ hs => hs) fun _ => False.elim)
    fun status => ?_
  have hresolve : Runs (Among parts who) (Holding own home owners (some ⟨flag, t, who⟩))
      (client.provider.resolve t flag default c) (fun _ => Loose own home owners)
      (Clean own home) :=
    (h.resolve home (some who) t flag default c).post fun _ _ => Holding.loose_or_clean
  cases status with
  | notReady => exact Runs.pure _ fun _ hs => hs.loose
  | fatal => exact Runs.pure _ fun _ hs => hs.loose
  | ready => exact hresolve
  | stale => exact hresolve
  | error => exact hresolve

/-- An evaluation by a client is all on behalf of that client. -/
theorem details (h : Serves own parts client.provider owners) (hout : Outside own parts)
    (options : EvaluationOptions)
    (hhooks : ∀ hook ∈ client.hooks ++ options.hooks, parts.hooks hook) (home : Nat)
    (flag : String) (default : t.Value) (context : Option Context) :
    Runs (Among parts ⟨client.name, options.hints⟩) (Clean own home)
      (client.details t flag default context options) (fun _ => Clean own home)
      (Clean own home) := by
  have hexposed : Exposed own parts (client.allHooks options) owners :=
    (Exposed.of_foreign hhooks).append h.hooks
  refine Runs.bind (hexposed.evaluate hout (client.hookContext flag default context) fun c =>
    h.askedBy home _ flag default c) fun r => ?_
  refine Runs.bind (framed_clean.runs fun s => ?_) fun _ => Runs.done _
  obtain ⟨s₁, hrun, records, rfl⟩ := Client.on_reportOutcome flag r s
  exact ⟨(), _, hrun, Store.Logged.internal ⟨records, rfl⟩, rfl, fun _ _ => rfl⟩

end Serves

/-- What is asked of a composition: an evaluation by a client, or a flag directly. -/
inductive Operation where
  | evaluate (client : Client) (t : FlagType) (flag : String) (default : t.Value)
    (context : Option Context) (options : EvaluationOptions)
  | resolve (p : Provider) (t : FlagType) (flag : String) (default : t.Value) (context : Context)

namespace Operation

def run : Operation → Eval Unit
  | evaluate client t flag default context options => do
    let _ ← client.details t flag default context options
  | resolve p t flag default context => do
    let _ ← p.resolve t flag default context

/-- On whose behalf an operation is. -/
def who : Operation → Captured
  | evaluate client _ _ _ _ options => ⟨client.name, options.hints⟩
  | resolve .. => .none

/-- The hooks are foreign and the provider is a composition of the parts. -/
def Fits (own : Nat → Prop) (parts : Parts) : Operation → Prop
  | evaluate client _ _ _ _ options =>
    (∀ hook ∈ client.hooks ++ options.hooks, parts.hooks hook) ∧
      ∃ owners, Composed own parts client.provider owners
  | resolve p .. => ∃ owners, Composed own parts p owners

/-- The store behind operations, each after the one before, whether that crashed or not. -/
def after (s : Store) (operations : List Operation) : Store :=
  operations.foldl (fun s operation => (operation.run.on s).2) s

theorem runs {operation : Operation} (hfits : operation.Fits own parts)
    (hout : Outside own parts) (home : Nat) :
    Runs (Among parts operation.who) (Clean own home) operation.run (fun _ => Clean own home)
      (Clean own home) := by
  cases operation with
  | evaluate client t flag default context options =>
    obtain ⟨hhooks, owners, hcomposed⟩ := hfits
    exact ((hcomposed.serves hout).details hout options hhooks home flag default context).bind
      fun _ => Runs.done ()
  | resolve p t flag default context =>
    obtain ⟨owners, hcomposed⟩ := hfits
    have hresolve := (hcomposed.serves hout).resolve home none t flag default context
    refine Runs.bind (hresolve.pre fun _ => holding_none_iff.2) fun _ => Runs.pure () fun s hs => ?_
    exact hs.elim holding_none_iff.1 id

theorem run_clean (hout : Outside own parts) {home : Nat} {operation : Operation}
    (hfits : operation.Fits own parts) {s : Store} (hs : Clean own home s) :
    Clean own home (operation.run.on s).2 :=
  ended_iff.1 (runs hfits hout home s hs).2

/-- No isolator holds anything behind operations on one thread. -/
theorem after_clean (hout : Outside own parts) {home : Nat} {operations : List Operation}
    (hfits : ∀ operation ∈ operations, operation.Fits own parts) {s : Store}
    (hs : Clean own home s) : Clean own home (after s operations) := by
  induction operations generalizing s with
  | nil => exact hs
  | cons operation rest ih =>
    have hnext := run_clean hout (hfits operation List.mem_cons_self) hs
    exact ih (fun o ho => hfits o (List.mem_cons_of_mem operation ho)) hnext

end Operation

/-! ## What hooks note -/

/-- A note of a hook shows these hints and the metadata of this client. -/
def Event.Shows (who : Captured) : Event → Prop
  | .hook _ _ seen hints => seen.client = who.client ∧ hints = who.hints
  | .request _ | .resolve .. | .start .. | .stop _ | .mismatch .. => True

theorem Event.shows_note {who : Captured} {seen : HookContext} {hints : Hints}
    (h : seen.client = who.client ∧ hints = who.hints) {channel name : String} {stage : HookStage} :
    ∀ e ∈ [(channel, Event.hook name stage seen hints)], e.2.Shows who := by
  intro e he
  rw [List.mem_singleton.1 he]
  exact h

/-- On a channel, foreign code only adds notes of hooks on what they are handed. -/
def Noting (parts : Parts) (channel : String) : Prop :=
  ∀ {q : Request} {who : Captured}, q.Of parts → q.Observes who → ∀ s, ∃ noted,
    (q.perform.on s).2.journal = s.journal ++ noted ∧
      ∀ e ∈ noted, e.1 = channel → e.2.Shows who

theorem Chain.noted {who : Captured} {channel : String} (hnoting : Noting parts channel)
    {s s' : Store} {calls : List Call} (h : Chain Store.Internal s calls s')
    (hamong : ∀ call ∈ calls, Among parts who call) : ∃ noted,
    s'.journal = s.journal ++ noted ∧ ∀ e ∈ noted, e.1 = channel → e.2.Shows who := by
  induction h with
  | done s => exact ⟨[], (List.append_nil _).symm, fun _ he => absurd he List.not_mem_nil⟩
  | own hown _ ih =>
    obtain ⟨noted, hjournal, hshows⟩ := ih hamong
    have hsame := congrArg Store.journal hown
    exact ⟨noted, hjournal.trans (congrArg (· ++ noted) hsame), hshows⟩
  | @call s s₁ s' call rest hcall _ ih =>
    obtain ⟨hof, hwho⟩ := hamong call List.mem_cons_self
    obtain ⟨first, hfirst, hshows⟩ := hnoting hof hwho s
    obtain ⟨others, hothers, hshows'⟩ := ih fun c hc => hamong c (List.mem_cons_of_mem call hc)
    rw [hcall] at hfirst
    refine ⟨first ++ others, ?_, fun e he => ?_⟩
    · rw [hothers, hfirst, List.append_assoc]
    · rcases List.mem_append.1 he with he | he
      · exact hshows e he
      · exact hshows' e he

/-! ## Scripted parts -/

/-- Scripted hooks around fixed answers, with notes on one channel. -/
def Parts.scripted (channel : String) : Parts where
  hooks hook := ∃ script : Scripted.HookScript, script.channel = channel ∧ hook = script.hook
  backends p := ∃ name answer hooks, p = { Scripted.fixed name answer with hooks }
  observers _ := False

/-- At every stage a scripted hook notes what it is handed and answers as it was told to. -/
theorem scripted_steady {channel : String} {q : Request} (hof : q.Of (.scripted channel))
    (hsteady : q.Steady) (s : Store) :
    ∃ a noted, q.perform.on s = (.ok a, { s with journal := s.journal ++ noted }) ∧
      ∀ who, q.Observes who → ∀ e ∈ noted, e.2.Shows who := by
  cases q with
  | before hook seen hints =>
    obtain ⟨script, -, rfl⟩ := hof
    refine ⟨script.failBefore.elim (.ok script.context) .error,
      [(script.channel, .hook script.name .before seen hints)], ?_, ?_⟩
    · change (script.hook.before seen hints).on s = _
      rw [Scripted.HookScript.hook]
      cases script.failBefore <;> rfl
    · exact fun _ hwho => Event.shows_note hwho
  | after hook seen details hints =>
    obtain ⟨script, -, rfl⟩ := hof
    refine ⟨script.failAfter.elim (.ok ()) .error,
      [(script.channel, .hook script.name (.after details) seen hints)], ?_, ?_⟩
    · change (script.hook.after seen details hints).on s = _
      rw [Scripted.HookScript.hook]
      cases script.failAfter <;> rfl
    · exact fun _ hwho => Event.shows_note hwho
  | error hook seen e hints =>
    obtain ⟨script, -, rfl⟩ := hof
    refine ⟨(), [(script.channel, .hook script.name (.error e) seen hints)], rfl, ?_⟩
    exact fun _ hwho => Event.shows_note hwho
  | atEnd hook seen details hints =>
    obtain ⟨script, -, rfl⟩ := hof
    refine ⟨(), [(script.channel, .hook script.name (.finally details) seen hints)], rfl, ?_⟩
    exact fun _ hwho => Event.shows_note hwho
  | status p =>
    obtain ⟨name, answer, hooks, rfl⟩ := hof
    refine ⟨Status.ready, [], ?_, fun _ _ _ he => absurd he List.not_mem_nil⟩
    rw [List.append_nil]
    rfl
  | resolve | mismatch => exact hsteady.elim

theorem outside_scripted (own : Nat → Prop) (channel : String) :
    Outside own (.scripted channel) where
  steady hof hsteady s := by
    obtain ⟨a, noted, hrun, -⟩ := scripted_steady hof hsteady s
    exact ⟨a, _, hrun, rfl, fun _ _ => rfl⟩
  resolve hp t flag default c s := by
    obtain ⟨name, answer, hooks, rfl⟩ := hp
    exact ⟨rfl, fun _ _ => rfl⟩
  mismatch hof := hof.elim

theorem noting_scripted (channel : String) : Noting (.scripted channel) channel := by
  intro q who hof hwho s
  by_cases hsteady : q.Steady
  · obtain ⟨a, noted, hrun, hshows⟩ := scripted_steady hof hsteady s
    rw [hrun]
    exact ⟨noted, rfl, fun e he _ => hshows who hwho e he⟩
  · cases q with
    | resolve t ask c =>
      obtain ⟨p, flag, default, ⟨name, answer, hooks, rfl⟩, rfl⟩ := hof
      exact ⟨[], (List.append_nil _).symm, fun _ he => absurd he List.not_mem_nil⟩
    | mismatch => exact hof.elim
    | before | after | error | atEnd | status => exact absurd trivial hsteady

/-- A fixed answer with a hook around it. -/
def Provider.hooked (name : String) (hook : Hook) : Provider :=
  { Scripted.fixed name (.ofValue (.bool true)) with hooks := [hook] }

def Multi.comparing (hook : Hook) : Multi :=
  ⟨[⟨"a", .new 0 (.hooked "a" hook) []⟩, ⟨"b", .new 1 (.hooked "b" hook) []⟩],
    .comparison ⟨none, none⟩⟩

/-- Hooked members, of which the first is a comparison behind a cache. -/
def Multi.nested (hook : Hook) : Multi :=
  ⟨[⟨"a or b", .new 2 (.cached id 0 (comparing hook).toProvider) []⟩,
    ⟨"c", .new 3 (.hooked "c" hook) []⟩], .firstMatch⟩

theorem composed_nested {channel : String} {hook : Hook}
    (hhook : (Parts.scripted channel).hooks hook) :
    Composed (· < 4) (.scripted channel) (Multi.nested hook).toProvider [2, 3] := by
  have hhooked (name : String) : Composed (· < 4) (.scripted channel) (.hooked name hook) [] :=
    .backend ⟨name, _, _, rfl⟩ fun _ h => List.mem_singleton.1 h ▸ hhook
  have hnone : ∀ other ∈ [], (Parts.scripted channel).hooks other := fun _ h =>
    absurd h List.not_mem_nil
  have hcomparing : Composed (· < 4) (.scripted channel) (Multi.comparing hook).toProvider [0, 1] :=
    .of_members
      (List.forall_mem_cons.2 ⟨isolates_new (by decide) _ hnone,
        List.forall_mem_singleton.2 (isolates_new (by decide) _ hnone)⟩)
      (by decide : [0, 1].Nodup)
      (fun _ h => by cases h; exact nofun)
      (List.forall_mem_cons.2 ⟨⟨_, hhooked "a"⟩, List.forall_mem_singleton.2 ⟨_, hhooked "b"⟩⟩)
  exact .of_members
    (List.forall_mem_cons.2 ⟨isolates_new (by decide) _ hnone,
      List.forall_mem_singleton.2 (isolates_new (by decide) _ hnone)⟩)
    (by decide : [2, 3].Nodup)
    (fun _ h => by cases h)
    (List.forall_mem_cons.2 ⟨⟨_, hcomparing.cached id 0⟩,
      List.forall_mem_singleton.2 ⟨_, hhooked "c"⟩⟩)

/-! ## Operations in sequence -/

/-- Whatever was asked before, an operation is a chain of calls on its own behalf, so that hooks
that note what they are handed note this alone, and nothing is held behind it. -/
theorem Operation.captures_confined (hout : Outside own parts) (earlier : List Operation)
    (operation : Operation) (hfits : ∀ o ∈ earlier ++ [operation], o.Fits own parts) (s : Store)
    (hs : ∀ i, own i → ∀ n, s.captures i n = none) :
    let before := after s earlier
    let behind := (operation.run.on before).2
    (∃ calls, Chain Store.Internal before calls behind ∧
      ∀ call ∈ calls, Among parts operation.who call) ∧
    (∀ channel, Noting parts channel → ∃ noted, behind.journal = before.journal ++ noted ∧
      ∀ e ∈ noted, e.1 = channel → e.2.Shows operation.who) ∧
    ∀ i, own i → ∀ n, behind.captures i n = none := by
  intro before behind
  have hearlier : ∀ o ∈ earlier, o.Fits own parts := fun o ho =>
    hfits o (List.mem_append_left _ ho)
  have hfit : operation.Fits own parts :=
    hfits operation (List.mem_append_right _ List.mem_cons_self)
  have hbefore : Clean own s.thread before := after_clean hout hearlier ⟨rfl, hs⟩
  have hbehind : Clean own s.thread behind := run_clean hout hfit hbefore
  obtain ⟨⟨calls, hchain, hamong⟩, -⟩ := runs hfit hout s.thread before hbefore
  exact ⟨⟨calls, hchain, hamong⟩, fun channel hnoting => hchain.noted hnoting hamong, hbehind.2⟩

theorem Operation.captures_confined_nested :
    let script : Scripted.HookScript := ⟨"hook", "notes", none, none, none⟩
    let p := (Multi.nested script.hook).toProvider
    let client : Client := { provider := p, name := "shop" }
    let hinted : Operation := .evaluate client .boolean "f" false none
      { hints := Table.empty.insert "trace" .null }
    let before := after (Store.fresh 0) [hinted, .resolve p .boolean "g" false .empty]
    let behind := ((evaluate client .boolean "h" false none {}).run.on before).2
    (∃ noted, behind.journal = before.journal ++ noted ∧
      ∀ e ∈ noted, e.1 = "notes" → e.2.Shows ⟨"shop", .empty⟩) ∧
    ∀ i, i < 4 → ∀ n, behind.captures i n = none := by
  intro script p client hinted before behind
  have hcomposed : Composed (· < 4) (.scripted "notes") p [2, 3] :=
    composed_nested ⟨script, rfl, rfl⟩
  have hfits : ∀ operation ∈ [hinted, .resolve p .boolean "g" false .empty,
      .evaluate client .boolean "h" false none {}],
      operation.Fits (· < 4) (.scripted "notes") := by
    intro operation h
    simp only [List.mem_cons, List.not_mem_nil, or_false] at h
    rcases h with rfl | rfl | rfl
    · exact ⟨fun _ h => absurd h List.not_mem_nil, _, hcomposed⟩
    · exact ⟨_, hcomposed⟩
    · exact ⟨fun _ h => absurd h List.not_mem_nil, _, hcomposed⟩
  have hfresh : ∀ i, i < 4 → ∀ n, (Store.fresh 0).captures i n = none := fun _ _ _ => rfl
  have h := captures_confined (outside_scripted (· < 4) "notes")
    [hinted, .resolve p .boolean "g" false .empty] (.evaluate client .boolean "h" false none {})
    hfits (Store.fresh 0) hfresh
  -- the stores are compared by their names, lest the whole run be computed
  dsimp only at h
  dsimp only [before, behind]
  exact ⟨h.2.1 "notes" (noting_scripted "notes"), h.2.2⟩

end FeatureFlags
