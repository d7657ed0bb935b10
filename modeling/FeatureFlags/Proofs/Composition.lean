import FeatureFlags.Cache.Provider
import FeatureFlags.Client
import FeatureFlags.Proofs.Isolation.Captures
import Mathlib.Tactic.Choose

/-!
# Compositions of providers

Backends are put behind caches, isolated and combined, in any nesting. What a composition does on
behalf of someone, its parts are asked on behalf of the same one. By induction on the nesting, with
one lemma for each way to put providers together.
-/
namespace FeatureFlags

theorem Framed.lookUp {own : Nat → Prop} {P E : Store → Prop} (hP : Framed own P) (owner : Nat)
    (key : String) {allowed : Call → Prop} :
    Runs allowed P (Cache.lookUp owner key) (fun _ => P) E :=
  hP.runs fun _ => ⟨_, _, rfl, rfl, rfl, fun _ _ => rfl⟩

theorem Framed.remember {own : Nat → Prop} {P E : Store → Prop} (hP : Framed own P) (owner : Nat)
    (key : String) (r : Resolution Json) {allowed : Call → Prop} :
    Runs allowed P (Cache.remember owner key r) (fun _ => P) E :=
  hP.runs fun _ => ⟨_, _, rfl, rfl, rfl, fun _ _ => rfl⟩

/-- What a provider does for those who captured something, and for those who did not: its foreign
code is asked on their behalf, and the isolators that stand among its hooks hold the capture still
or nothing is held at all. -/
structure Serves (own : Nat → Prop) (parts : Parts) (p : Provider) (owners : List Nat) : Prop where
  hooks : Exposed own parts p.hooks owners
  status (who : Captured) {P : Store → Prop} (hP : Framed own P) :
    Runs (Among parts who) P p.status (fun _ => P) fun _ => False
  resolve (home : Nat) (held : Option Captured) (t : FlagType) (flag : String) (default : t.Value)
    (c : Context) :
    Runs (Among parts (held.getD .none))
      (Holding own home owners (held.map (Capture.mk flag t))) (p.resolve t flag default c)
      (fun _ s => Holding own home owners (held.map (Capture.mk flag t)) s ∨ Clean own home s)
      (Clean own home)

/-- An isolator that runs the hooks of its provider and foreign ones behind them. -/
structure Isolates (own : Nat → Prop) (parts : Parts) (i : Isolator) : Prop where
  own : own i.owner
  hooks : ∃ more, i.hooks = i.provider.hooks ++ more ∧ ∀ hook ∈ more, parts.hooks hook

theorem isolates_new {own : Nat → Prop} {parts : Parts} {owner : Nat} (hown : own owner)
    (p : Provider) {more : List Hook} (hmore : ∀ hook ∈ more, parts.hooks hook) :
    Isolates own parts (.new owner p more) := ⟨hown, more, rfl, hmore⟩

namespace Serves

variable {own : Nat → Prop} {parts : Parts} {p : Provider} {owners : List Nat}

theorem backend (hout : Outside own parts) (hp : parts.backends p)
    (hhooks : ∀ hook ∈ p.hooks, parts.hooks hook) : Serves own parts p [] where
  hooks := .of_foreign hhooks
  status who _ hP := hout.runs_steady (q := .status p) hp trivial trivial hP
  resolve home held t flag default c := by
    have hof : (Request.resolve t (p.resolve t flag default) c).Of parts :=
      ⟨p, flag, default, hp, rfl⟩
    refine Runs.request (.resolve t (p.resolve t flag default) c) (fun _ => ⟨hof, trivial⟩)
      fun s hs => ?_
    have hclean : Clean own home ((p.resolve t flag default c).on s).2 :=
      framed_clean _ _ (hout.resolve hp t flag default c s) (holding_nil_iff.1 hs)
    have hended : Ended (fun _ => Clean own home) (Clean own home)
        ((p.resolve t flag default c).on s) := ended_iff.2 hclean
    exact hended.mono (fun _ _ hs => .inr hs) fun _ hs => hs

/-- A cache changes nothing of what isolators hold, also when it answers itself. -/
theorem cached (h : Serves own parts p owners) (digest : String → String) (owner : Nat) :
    Serves own parts (.cached digest owner p) owners where
  hooks := h.hooks
  status := h.status
  resolve home held t flag default c := by
    refine Runs.bind (framed_holding.lookUp owner _) fun found => ?_
    cases found.bind (Cache.typed? t) with
    | some r =>
      exact (framed_holding.report _ _ _).bind fun _ => Runs.pure _ fun s hs => .inl hs
    | none =>
      refine Runs.bind (h.resolve home held t flag default c) fun r => ?_
      refine Runs.bind ((framed_holding.or framed_clean).remember owner _ _) fun _ => ?_
      exact Runs.done r

/-- With nothing held, an isolator evaluates on behalf of those whose capture was taken. -/
theorem evaluate {i : Isolator} (h : Serves own parts i.provider owners) (hout : Outside own parts)
    (hi : Isolates own parts i) (home : Nat) (held : Option Captured) (t : FlagType)
    (flag : String) (default : t.Value) (c : Context) :
    Runs (Among parts (held.getD .none)) (Clean own home) (i.evaluate held t flag default c)
      (fun _ => Clean own home) (Clean own home) := by
  obtain ⟨more, hhooks, hmore⟩ := hi.hooks
  have hexposed : Exposed own parts i.hooks owners := by
    have happend := h.hooks.append (.of_foreign hmore)
    rwa [← hhooks, List.append_nil] at happend
  refine hexposed.evaluate hout (i.hookContext held t flag default c) fun c => ?_
  exact (h.resolve home (some (held.getD .none)) t flag default c).post fun _ _ =>
    Holding.loose_or_clean

theorem isolated {i : Isolator} (h : Serves own parts i.provider owners) (hout : Outside own parts)
    (hi : Isolates own parts i) : Serves own parts i.toProvider [i.owner] where
  hooks := .isolator hi.own .nil
  status := h.status
  resolve home held t flag default c := by
    have htake : Runs (Among parts (held.getD .none))
        (Holding own home [i.owner] (held.map (Capture.mk flag t))) (i.take? flag t)
        (fun taken s => taken = held ∧ Clean own home s) (Clean own home) :=
      Runs.internal fun s hs => ⟨_, _, i.on_take? flag t s, i.released_internal s,
        i.holding_eq hi.own List.mem_cons_self hs, loose_nil_iff.1 (i.released_loose hs.loose)⟩
    refine Runs.bind htake fun taken => Runs.known fun htaken => ?_
    rw [htaken]
    exact (h.evaluate hout hi home held t flag default c).post fun _ _ hs => .inr hs

end Serves

/-! ## Strategies -/

namespace Multi

variable {own : Nat → Prop} {parts : Parts} {who : Captured} {t : FlagType} {flag : String}
  {default : t.Value} {E : Store → Prop}

/-- A member can be asked on any thread while nothing is held. -/
def Askable (own : Nat → Prop) (parts : Parts) (who : Captured) (x : Candidate t) : Prop :=
  ∀ home, Runs (Among parts who) (Clean own home) x.ask (fun _ => Clean own home) (Clean own home)

theorem failure_runs (home : Nat) (errors : List (String × EvaluationError)) :
    Runs (Among parts who) (Clean own home) (failure flag default errors)
      (fun _ => Clean own home) E :=
  (framed_clean.report _ _ _).bind fun _ => Runs.done _

theorem firstMatch_runs (home : Nat) {members : List (Candidate t)}
    (h : ∀ x ∈ members, Askable own parts who x) :
    Runs (Among parts who) (Clean own home) (firstMatch flag default members)
      (fun _ => Clean own home) (Clean own home) := by
  induction members with
  | nil => exact Runs.done _
  | cons x rest ih =>
    refine Runs.bind (h x List.mem_cons_self home) fun r => ?_
    split
    · exact ih fun y hy => h y (List.mem_cons_of_mem x hy)
    · exact Runs.done _

theorem firstSuccess_runs (home : Nat) (errors : List (String × EvaluationError))
    {members : List (Candidate t)} (h : ∀ x ∈ members, Askable own parts who x) :
    Runs (Among parts who) (Clean own home) (firstSuccess flag default errors members)
      (fun _ => Clean own home) (Clean own home) := by
  induction members generalizing errors with
  | nil =>
    rw [firstSuccess]
    split
    · exact Runs.done _
    · exact failure_runs home errors
  | cons x rest ih =>
    refine Runs.bind (h x List.mem_cons_self home) fun r => ?_
    cases r.error with
    | none => exact Runs.done _
    | some e => exact ih _ fun y hy => h y (List.mem_cons_of_mem x hy)

theorem askAll_runs (home : Nat) {members : List (Candidate t)}
    (h : ∀ x ∈ members, Askable own parts who x) :
    Runs (Among parts who) (Clean own home) (askAll members) (fun _ => Clean own home) E := by
  induction members with
  | nil => exact Runs.done _
  | cons x rest ih =>
    have haway : Runs (Among parts who) (Clean own home) (Eval.onThread x.ask)
        (fun _ => Clean own home) E := by
      refine Runs.onThread fun s hs => ⟨Clean own s.threads, ⟨rfl, hs.2⟩, ?_⟩
      exact (h x List.mem_cons_self s.threads).mono (fun _ h => h)
        (fun _ _ hend => ⟨hs.1, hend.2⟩) fun _ hend => ⟨hs.1, hend.2⟩
    refine Runs.bind haway fun answer => ?_
    exact (ih fun y hy => h y (List.mem_cons_of_mem x hy)).bind fun _ =>
      Runs.done _

/-- The observer of a comparison, if there is one, is foreign code of the composition. -/
def Comparison.ObservedBy (parts : Parts) (settings : Comparison) : Prop :=
  ∀ observer, settings.onMismatch = some observer → parts.observers observer

theorem reportMismatch_runs (hout : Outside own parts) (home : Nat) {settings : Comparison}
    (hobserver : settings.ObservedBy parts) (found : List (String × Resolution t.Value)) :
    Runs (Among parts who) (Clean own home) (reportMismatch settings flag found)
      (fun _ => Clean own home) (Clean own home) := by
  refine Runs.bind (framed_clean.report _ _ _) fun _ => ?_
  rcases htell : settings.onMismatch with _ | observer
  · exact Runs.done _
  · have hof := hobserver observer htell
    refine Runs.request (.mismatch observer flag _) (fun _ => ⟨hof, trivial⟩) fun s hs => ?_
    exact ended_iff.2 (hout.mismatch hof flag _ hs)

theorem judge_runs (hout : Outside own parts) (home : Nat) {settings : Comparison}
    (hobserver : settings.ObservedBy parts) (answers : List (Answer t)) :
    Runs (Among parts who) (Clean own home) (judge settings flag default answers)
      (fun _ => Clean own home) (Clean own home) := by
  unfold judge
  split
  · exact failure_runs home _
  · split
    · exact Runs.done _
    · dsimp only
      split
      · exact Runs.done _
      · exact (reportMismatch_runs hout home hobserver _).bind fun _ => Runs.done _

/-- Whichever members a strategy asks, and in which way, nothing is held behind it. -/
theorem run_runs (hout : Outside own parts) (home : Nat) {strategy : Strategy}
    (hobserver : ∀ settings, strategy = .comparison settings → settings.ObservedBy parts)
    {members : List (Candidate t)} (h : ∀ x ∈ members, Askable own parts who x) :
    Runs (Among parts who) (Clean own home) (strategy.run flag default members)
      (fun _ => Clean own home) (Clean own home) := by
  cases strategy with
  | firstMatch => exact firstMatch_runs home h
  | firstSuccess => exact firstSuccess_runs home [] h
  | comparison settings =>
    exact (askAll_runs home h).bind fun answers =>
      judge_runs hout home (hobserver settings rfl) answers

theorem exposed_members {members : List Member} (h : ∀ x ∈ members, own x.isolator.owner) :
    Exposed own parts (members.map (·.isolator.hook)) (members.map (·.isolator.owner)) := by
  induction members with
  | nil => exact .nil
  | cons x rest ih =>
    exact .isolator (h x List.mem_cons_self) (ih fun y hy => h y (List.mem_cons_of_mem x hy))

theorem released_loose {members : List Member} {home : Nat} {s : Store}
    (h : Loose own home (members.map (·.isolator.owner)) s) :
    Clean own home (released s members) := by
  induction members generalizing s with
  | nil => exact loose_nil_iff.1 h
  | cons x rest ih => exact ih (x.isolator.released_loose h)

/-- Taking from all members gives each of them the capture of the evaluation. -/
theorem candidates_runs {m : Multi} (hi : ∀ x ∈ m.members, Isolates own parts x.isolator)
    (hdistinct : (m.members.map (·.isolator.owner)).Nodup) (home : Nat) (held : Option Captured)
    (flag : String) (default : t.Value) (c : Context) {allowed : Call → Prop} :
    Runs allowed
      (Holding own home (m.members.map (·.isolator.owner)) (held.map (Capture.mk flag t)))
      (candidates t flag default c m.members)
      (fun seats s => seats = m.members.map (fun x => candidate flag default c (x, held)) ∧
        Clean own home s) E := by
  refine Runs.internal fun s hs => ⟨_, _, on_candidates m.members s,
    released_internal s m.members, ?_, released_loose hs.loose⟩
  rw [seats_of_nodup s hdistinct, List.map_map]
  refine List.map_congr_left fun x hx => ?_
  have hmem : x.isolator.owner ∈ m.members.map (·.isolator.owner) := List.mem_map.2 ⟨x, hx, rfl⟩
  have hheld : x.isolator.holding s flag t = held := x.isolator.holding_eq (hi x hx).own hmem hs
  rw [Function.comp_apply, hheld]

end Multi

theorem Serves.combined {own : Nat → Prop} {parts : Parts} (hout : Outside own parts) {m : Multi}
    {inner : Multi.Member → List Nat} (hi : ∀ x ∈ m.members, Isolates own parts x.isolator)
    (hdistinct : (m.members.map (·.isolator.owner)).Nodup)
    (hobserver : ∀ settings, m.strategy = .comparison settings → settings.ObservedBy parts)
    (h : ∀ x ∈ m.members, Serves own parts x.isolator.provider (inner x)) :
    Serves own parts m.toProvider (m.members.map (·.isolator.owner)) where
  hooks := Multi.exposed_members fun x hx => (hi x hx).own
  status who _ hP :=
    (Runs.mapM fun x hx => (h x hx).status who hP).bind fun _ => Runs.done _
  resolve home held t flag default c := by
    refine Runs.bind (Multi.candidates_runs hi hdistinct home held flag default c) fun seats =>
      Runs.known fun hseats => ?_
    subst hseats
    refine (Multi.run_runs hout home hobserver fun seat hseat home => ?_).post fun _ _ hs => .inr hs
    obtain ⟨x, hx, rfl⟩ := List.mem_map.1 hseat
    exact (h x hx).evaluate hout (hi x hx) home held t flag default c

/-- Providers that are put together, each with the isolators that stand among its hooks. -/
inductive Composed (own : Nat → Prop) (parts : Parts) : Provider → List Nat → Prop where
  | backend {p : Provider} (hp : parts.backends p) (hooks : ∀ hook ∈ p.hooks, parts.hooks hook) :
    Composed own parts p []
  | cached (digest : String → String) (owner : Nat) {p : Provider} {owners : List Nat}
    (h : Composed own parts p owners) : Composed own parts (.cached digest owner p) owners
  | isolated {i : Isolator} {owners : List Nat} (hi : Isolates own parts i)
    (h : Composed own parts i.provider owners) : Composed own parts i.toProvider [i.owner]
  | combined {m : Multi} {inner : Multi.Member → List Nat}
    (hi : ∀ x ∈ m.members, Isolates own parts x.isolator)
    (distinct : (m.members.map (·.isolator.owner)).Nodup)
    (observer : ∀ settings, m.strategy = .comparison settings → settings.ObservedBy parts)
    (h : ∀ x ∈ m.members, Composed own parts x.isolator.provider (inner x)) :
    Composed own parts m.toProvider (m.members.map (·.isolator.owner))

theorem Composed.serves {own : Nat → Prop} {parts : Parts} {p : Provider} {owners : List Nat}
    (h : Composed own parts p owners) (hout : Outside own parts) : Serves own parts p owners := by
  induction h with
  | backend hp hooks => exact .backend hout hp hooks
  | cached digest owner _ ih => exact ih.cached digest owner
  | isolated hi _ ih => exact ih.isolated hout hi
  | combined hi distinct observer _ ih => exact .combined hout hi distinct observer ih

/-! ## Making a composition -/

theorem Composed.of_members {own : Nat → Prop} {parts : Parts} {m : Multi}
    (hi : ∀ x ∈ m.members, Isolates own parts x.isolator)
    (hdistinct : (m.members.map (·.isolator.owner)).Nodup)
    (hobserver : ∀ settings, m.strategy = .comparison settings → settings.ObservedBy parts)
    (h : ∀ x ∈ m.members, ∃ owners, Composed own parts x.isolator.provider owners) :
    Composed own parts m.toProvider (m.members.map (·.isolator.owner)) := by
  choose! inner hinner using h
  exact .combined hi hdistinct hobserver hinner

namespace Multi

/-- Members get numbers in a row, which nothing had before. -/
theorem on_isolate (entries : List (Entry × String)) (s : Store) :
    ∃ members, (isolate entries).on s =
        (.ok members, { s with owners := s.owners + entries.length }) ∧
      members.map (·.isolator.owner) = List.range' s.owners entries.length ∧
      ∀ x ∈ members, ∃ e ∈ entries, x.isolator = .new x.isolator.owner e.1.provider [] := by
  induction entries generalizing s with
  | nil => exact ⟨[], rfl, rfl, fun _ h => absurd h List.not_mem_nil⟩
  | cons e rest ih =>
    obtain ⟨members, hrun, howners, hmembers⟩ := ih { s with owners := s.owners + 1 }
    have hnew : Eval.newOwner.on s = (.ok s.owners, { s with owners := s.owners + 1 }) := rfl
    refine ⟨⟨e.2, .new s.owners e.1.provider []⟩ :: members, ?_, ?_, ?_⟩
    · have hcount : s.owners + (rest.length + 1) = s.owners + 1 + rest.length := by omega
      rw [isolate, Eval.on_bind_ok hnew, Eval.on_bind_ok hrun, List.length_cons, hcount]
      rfl
    · rw [List.map_cons, howners, List.length_cons, List.range'_succ]
      rfl
    · intro x hx
      rcases List.mem_cons.1 hx with rfl | hx
      · exact ⟨e, List.mem_cons_self, rfl⟩
      · obtain ⟨e', he', hnew'⟩ := hmembers x hx
        exact ⟨e', List.mem_cons_of_mem e he', hnew'⟩

/-- What is combined of compositions is a composition. -/
theorem composed_of_new {own : Nat → Prop} {parts : Parts} {entries : List Entry}
    {strategy : Strategy} {m : Multi} {s s' : Store}
    (hnew : (Multi.new entries strategy).on s = (.ok (.ok m), s'))
    (hown : ∀ i, s.owners ≤ i → own i)
    (hobserver : ∀ settings, strategy = .comparison settings → settings.ObservedBy parts)
    (hentries : ∀ e ∈ entries, ∃ owners, Composed own parts e.provider owners) :
    Composed own parts m.toProvider (m.members.map (·.isolator.owner)) := by
  rcases hnames : setUp entries strategy with e | names
  · rw [Multi.new, hnames] at hnew
    cases hnew
  · obtain ⟨members, hrun, howners, hmembers⟩ := on_isolate (entries.zip names) s
    rw [Multi.new, hnames] at hnew
    dsimp only at hnew
    rw [Eval.on_bind_ok hrun] at hnew
    cases hnew
    have hi : ∀ x ∈ members, Isolates own parts x.isolator := by
      intro x hx
      obtain ⟨e, -, hx'⟩ := hmembers x hx
      have hlate : x.isolator.owner ∈ members.map (·.isolator.owner) :=
        List.mem_map.2 ⟨x, hx, rfl⟩
      rw [howners, List.mem_range'_1] at hlate
      rw [hx']
      exact isolates_new (hown _ hlate.1) e.1.provider fun _ h => absurd h List.not_mem_nil
    have hcomposed : ∀ x ∈ members, ∃ owners, Composed own parts x.isolator.provider owners := by
      intro x hx
      obtain ⟨e, he, hx'⟩ := hmembers x hx
      rw [hx']
      exact hentries e.1 (List.of_mem_zip he).1
    exact .of_members hi (howners ▸ List.nodup_range') hobserver hcomposed

end Multi

end FeatureFlags
