import FeatureFlags.Multi.Provider
import FeatureFlags.Proofs.Lifecycle.Course
import FeatureFlags.Proofs.Multi.Verdicts

/-!
# The turns of members

A combined provider takes what every member holds and then asks members in their order. A turn is
the evaluation of one member, with the calls that it makes. Main statement: under every strategy a
run is a chain of the turns of the first members, after which an observer may be told.
-/
namespace FeatureFlags

namespace Isolator

/-- What is held for the thread that runs, if it is meant for a flag and a type. -/
def holding (i : Isolator) (s : Store) (flag : String) (t : FlagType) : Option Captured :=
  ((s.captures i.owner s.thread).filter fun h => h.flag = flag ∧ h.type = t).map (·.captured)

/-- The store in which nothing is held for the thread that runs. -/
def released (i : Isolator) (s : Store) : Store :=
  { s with captures := s.captures.set i.owner ((s.captures i.owner).set s.thread none) }

@[simp]
theorem on_take? (i : Isolator) (flag : String) (t : FlagType) (s : Store) :
    (i.take? flag t).on s = (.ok (i.holding s flag t), i.released s) := rfl

theorem released_internal (i : Isolator) (s : Store) : s.Internal (i.released s) := rfl

theorem holding_released {i j : Isolator} (h : i.owner ≠ j.owner) (s : Store) (flag : String)
    (t : FlagType) : j.holding (i.released s) flag t = j.holding s flag t := by
  simp [holding, released, h.symm]

/-- What the hooks of an isolated provider are handed at first. -/
def hookContext (i : Isolator) (captured : Option Captured) (t : FlagType) (flag : String)
    (default : t.Value) (c : Context) : HookContext where
  flag := flag
  type := t
  default := t.toJson default
  context := c
  client := (captured.getD .none).client
  provider := i.provider.name

end Isolator

namespace Multi

variable {t : FlagType} {flag : String} {default : t.Value} {c : Context}

/-- Members, each with what was taken from it, one after the other. -/
def seats (flag : String) (t : FlagType) : Store → List Member → List (Member × Option Captured)
  | _, [] => []
  | s, x :: rest => (x, x.isolator.holding s flag t) :: seats flag t (x.isolator.released s) rest

theorem map_seats (s : Store) (members : List Member) :
    (seats flag t s members).map (·.1) = members := by
  induction members generalizing s with
  | nil => rfl
  | cons x rest ih => exact congrArg (x :: ·) (ih (x.isolator.released s))

theorem mem_of_mem_seats {s : Store} {members : List Member} {seat : Member × Option Captured}
    (h : seat ∈ seats flag t s members) : seat.1 ∈ members := by
  have hmem : seat.1 ∈ (seats flag t s members).map (·.1) := List.mem_map_of_mem h
  rwa [map_seats] at hmem

/-- The store in which no member holds anything for the thread that runs. -/
def released (s : Store) (members : List Member) : Store :=
  members.foldl (fun s x => x.isolator.released s) s

theorem released_internal (s : Store) (members : List Member) :
    s.Internal (released s members) := by
  induction members generalizing s with
  | nil => rfl
  | cons x rest ih => exact ih (x.isolator.released s)

/-- Members with numbers of their own are given what each of them held. -/
theorem seats_of_nodup (s : Store) {members : List Member}
    (h : (members.map (·.isolator.owner)).Nodup) :
    seats flag t s members = members.map fun x => (x, x.isolator.holding s flag t) := by
  induction members generalizing s with
  | nil => rfl
  | cons x rest ih =>
    obtain ⟨hx, hrest⟩ := List.nodup_cons.1 h
    rw [seats, ih _ hrest, List.map_cons]
    congr 1
    apply List.map_congr_left
    intro y hy
    have hne : x.isolator.owner ≠ y.isolator.owner := fun e =>
      hx (List.mem_map.2 ⟨y, hy, e.symm⟩)
    rw [Isolator.holding_released hne]

/-- A member as a strategy sees it. -/
def candidate (flag : String) (default : t.Value) (c : Context) (seat : Member × Option Captured) :
    Candidate t :=
  ⟨seat.1.name, seat.1.isolator.evaluate seat.2 t flag default c⟩

theorem on_candidates (members : List Member) (s : Store) :
    (candidates t flag default c members).on s =
      (.ok ((seats flag t s members).map (candidate flag default c)), released s members) := by
  induction members generalizing s with
  | nil => rfl
  | cons x rest ih =>
    rw [candidates, Eval.on_bind_ok (x.isolator.on_take? flag t s), Eval.on_bind_ok (ih _)]
    rfl

/-- The strategy runs when everything that members held has been taken. -/
theorem on_evaluate (m : Multi) (flag : String) (default : t.Value) (c : Context) (s : Store) :
    (m.evaluate t flag default c).on s =
      (m.strategy.run flag default ((seats flag t s m.members).map
        (candidate flag default c))).on (released s m.members) := by
  rw [evaluate, Eval.on_bind_ok (on_candidates m.members s)]

/-- The evaluation of one member. -/
structure Turn (t : FlagType) where
  member : Member
  captured : Option Captured
  calls : List Call
  outcome : Except Crash (Resolution t.Value)

namespace Turn

def seat (τ : Turn t) : Member × Option Captured := (τ.member, τ.captured)

/-- What a strategy learns of it. -/
def answer (τ : Turn t) : Answer t := (τ.member.name, τ.outcome)

theorem answer_eq {τ : Turn t} {outcome : Except Crash (Resolution t.Value)}
    (h : outcome = τ.outcome) : τ.answer = (τ.member.name, outcome) := by rw [answer, h]

/-- The calls are those of an evaluation of the member's provider with the member's hooks around
it, in the context in which the combined provider is asked. -/
def Played (flag : String) (default : t.Value) (c : Context) (τ : Turn t) : Prop :=
  Ends
    (Lifecycle.Course τ.member.isolator.hooks
      (τ.member.isolator.hookContext τ.captured t flag default c) (τ.captured.getD .none).hints
      default (τ.member.isolator.provider.resolve t flag default))
    τ.calls τ.outcome

end Turn

/-- Whether the next member is asked behind what came of asking one. -/
def Strategy.AsksOn : Strategy → Except Crash (Resolution t.Value) → Prop
  | .firstMatch, .ok r => r.errorCode? = some .flagNotFound
  | .firstSuccess, .ok r => r.isError = true
  | .comparison _, _ => True
  | _, .error _ => False

/-- The turns of the first of some seats, up to one that ends the search. -/
structure Asked (asksOn : Except Crash (Resolution t.Value) → Prop) (flag : String)
    (default : t.Value) (c : Context) (all : List (Member × Option Captured))
    (turns : List (Turn t)) : Prop where
  seats : turns.map Turn.seat <+: all
  goesOn : ∀ τ ∈ turns.dropLast, asksOn τ.outcome
  ends : turns.map Turn.seat = all ∨ ∃ τ, turns.getLast? = some τ ∧ ¬ asksOn τ.outcome
  played : ∀ τ ∈ turns, τ.Played flag default c

namespace Asked

variable {asksOn : Except Crash (Resolution t.Value) → Prop}
  {seats : List (Member × Option Captured)} {seat : Member × Option Captured}
  {turns : List (Turn t)} {τ : Turn t}

theorem nil : Asked asksOn flag default c [] [] where
  seats := List.nil_prefix
  goesOn _ h := absurd h List.not_mem_nil
  ends := .inl rfl
  played _ h := absurd h List.not_mem_nil

theorem last (hseat : τ.seat = seat) (hplayed : τ.Played flag default c)
    (hend : ¬ asksOn τ.outcome) : Asked asksOn flag default c (seat :: seats) [τ] where
  seats := by
    rw [List.map_singleton, hseat]
    exact (List.prefix_cons_inj seat).2 List.nil_prefix
  goesOn _ h := absurd h List.not_mem_nil
  ends := .inr ⟨τ, rfl, hend⟩
  played _ h := List.mem_singleton.1 h ▸ hplayed

theorem cons (hseat : τ.seat = seat) (hplayed : τ.Played flag default c)
    (hon : asksOn τ.outcome) (h : Asked asksOn flag default c seats turns) :
    Asked asksOn flag default c (seat :: seats) (τ :: turns) where
  seats := by
    rw [List.map_cons, hseat]
    exact (List.prefix_cons_inj seat).2 h.seats
  goesOn := by
    intro σ hσ
    cases turns with
    | nil => exact absurd hσ List.not_mem_nil
    | cons next rest =>
      rw [List.dropLast_cons_cons] at hσ
      rcases List.mem_cons.1 hσ with rfl | hσ
      · exact hon
      · exact h.goesOn σ hσ
  ends := by
    rcases h.ends with hall | ⟨σ, hlast, hend⟩
    · left
      rw [List.map_cons, hseat, hall]
    · right
      refine ⟨σ, ?_, hend⟩
      rw [List.getLast?_cons, hlast, Option.getD_some]
  played := by
    intro σ hσ
    rcases List.mem_cons.1 hσ with rfl | hσ
    · exact hplayed
    · exact h.played σ hσ

end Asked

theorem exists_turn (flag : String) (default : t.Value) (c : Context)
    (seat : Member × Option Captured) (s : Store) :
    ∃ τ : Turn t, τ.seat = seat ∧ τ.Played flag default c ∧
      Chain Store.Internal s τ.calls ((candidate flag default c seat).ask.on s).2 ∧
      ((candidate flag default c seat).ask.on s).1 = τ.outcome := by
  obtain ⟨member, captured⟩ := seat
  obtain ⟨calls, hchain, hends⟩ := (Lifecycle.evaluate_follows member.isolator.hooks
    (member.isolator.hookContext captured t flag default c) (captured.getD .none).hints default
    (member.isolator.provider.resolve t flag default)).run s
  exact ⟨⟨member, captured, calls, _⟩, rfl, hends, hchain.mono fun _ _ h => h.internal, rfl⟩

theorem chain_single {τ : Turn t} {s s' : Store} (h : Chain Store.Internal s τ.calls s') :
    Chain Store.Internal s ([τ].flatMap (·.calls)) s' := by
  rwa [List.flatMap_singleton]

theorem failure_logged (flag : String) (default : t.Value)
    (errors : List (String × EvaluationError)) (s : Store) :
    s.Logged ((failure flag default errors).on s).2 := by
  rw [failure, Eval.on_bind_ok (Eval.on_report ..)]
  exact ⟨_, rfl⟩

/-- Members are asked one after the other until one of them knows the flag. -/
theorem firstMatch_asked (flag : String) (default : t.Value) (c : Context)
    (seats : List (Member × Option Captured)) (s : Store) :
    ∃ turns, Asked (Strategy.AsksOn .firstMatch) flag default c seats turns ∧
      Chain Store.Internal s (turns.flatMap (·.calls))
        ((firstMatch flag default (seats.map (candidate flag default c))).on s).2 ∧
      Search (fun r => r.errorCode? = some .flagNotFound) (fun _ => Missing flag default)
        (seats.map (·.1.name)) (turns.map Turn.answer)
        ((firstMatch flag default (seats.map (candidate flag default c))).on s).1 := by
  induction seats generalizing s with
  | nil => exact ⟨[], .nil, .done s, .exhausted (fun _ h => absurd h List.not_mem_nil) rfl⟩
  | cons seat rest ih =>
    obtain ⟨τ, rfl, hplayed, hchain, houtcome⟩ := exists_turn flag default c seat s
    rw [List.map_cons, firstMatch]
    rcases hask : (candidate flag default c τ.seat).ask.on s with ⟨e | r, s₁⟩
    · rw [hask] at hchain houtcome
      rw [Eval.on_bind_error hask]
      have hend : ¬ Strategy.AsksOn .firstMatch τ.outcome := houtcome ▸ id
      refine ⟨[τ], .last rfl hplayed hend, chain_single hchain, ?_⟩
      rw [List.map_singleton, Turn.answer_eq houtcome]
      exact .crashed_first _ _ e
    · rw [hask] at hchain houtcome
      rw [Eval.on_bind_ok hask]
      by_cases hunknown : r.errorCode? = some .flagNotFound
      · have hon : Strategy.AsksOn .firstMatch τ.outcome := houtcome ▸ hunknown
        obtain ⟨turns, hturns, hrest, hsearch⟩ := ih s₁
        rw [if_pos hunknown]
        refine ⟨τ :: turns, .cons rfl hplayed hon hturns, hchain.append hrest, ?_⟩
        rw [List.map_cons, List.map_cons, Turn.answer_eq houtcome]
        exact hsearch.cons hunknown fun _ h => h
      · have hend : ¬ Strategy.AsksOn .firstMatch τ.outcome := houtcome ▸ hunknown
        rw [if_neg hunknown]
        refine ⟨[τ], .last rfl hplayed hend, chain_single hchain, ?_⟩
        rw [List.map_singleton, Turn.answer_eq houtcome]
        exact .won_first _ hunknown (named_tagged r _)

theorem unsuccessful_served (flag : String) (default : t.Value)
    (errors : List (String × EvaluationError)) (s : Store) :
    ∃ r s₁, (firstSuccess flag default errors []).on s = (.ok r, s₁) ∧ s.Internal s₁ ∧
      Unsuccessful flag default errors r := by
  rw [firstSuccess]
  by_cases hall : errors.all (·.2.code = .flagNotFound) = true
  · rw [if_pos hall]
    refine ⟨_, _, rfl, rfl, .inl ⟨fun e he => ?_, rfl⟩⟩
    simpa using List.all_eq_true.1 hall e he
  · rw [if_neg hall]
    refine ⟨_, _, rfl, (failure_logged flag default errors s).internal, .inr ⟨?_, rfl⟩⟩
    simpa using hall

/-- Members are asked one after the other until one of them answers without an error. -/
theorem firstSuccess_asked (flag : String) (default : t.Value) (c : Context)
    (errors : List (String × EvaluationError)) (seats : List (Member × Option Captured))
    (s : Store) :
    ∃ turns, Asked (Strategy.AsksOn .firstSuccess) flag default c seats turns ∧
      Chain Store.Internal s (turns.flatMap (·.calls))
        ((firstSuccess flag default errors (seats.map (candidate flag default c))).on s).2 ∧
      Search (fun r => r.isError = true)
        (fun answers => Unsuccessful flag default (errors ++ errorsOf answers))
        (seats.map (·.1.name)) (turns.map Turn.answer)
        ((firstSuccess flag default errors (seats.map (candidate flag default c))).on s).1 := by
  induction seats generalizing s errors with
  | nil =>
    obtain ⟨r, s₁, hrun, hown, hr⟩ := unsuccessful_served flag default errors s
    rw [List.map_nil, hrun]
    refine ⟨[], .nil, .of_own hown, .exhausted (fun _ h => absurd h List.not_mem_nil) ?_⟩
    rwa [errorsOf, List.filterMap_nil, List.append_nil]
  | cons seat rest ih =>
    obtain ⟨τ, rfl, hplayed, hchain, houtcome⟩ := exists_turn flag default c seat s
    rw [List.map_cons, firstSuccess]
    rcases hask : (candidate flag default c τ.seat).ask.on s with ⟨e | r, s₁⟩
    · rw [hask] at hchain houtcome
      rw [Eval.on_bind_error hask]
      have hend : ¬ Strategy.AsksOn .firstSuccess τ.outcome := houtcome ▸ id
      refine ⟨[τ], .last rfl hplayed hend, chain_single hchain, ?_⟩
      rw [List.map_singleton, Turn.answer_eq houtcome]
      exact .crashed_first _ _ e
    · rw [hask] at hchain houtcome
      rw [Eval.on_bind_ok hask]
      cases herror : r.error with
      | none =>
        have hvalid : ¬ r.isError = true := by
          rw [Resolution.isError, herror, Option.isSome_none]
          exact Bool.false_ne_true
        have hend : ¬ Strategy.AsksOn .firstSuccess τ.outcome := houtcome ▸ hvalid
        refine ⟨[τ], .last rfl hplayed hend, chain_single hchain, ?_⟩
        rw [List.map_singleton, Turn.answer_eq houtcome]
        exact .won_first _ hvalid (named_tagged r _)
      | some e =>
        have herroneous : r.isError = true := by
          rw [Resolution.isError, herror, Option.isSome_some]
        have hon : Strategy.AsksOn .firstSuccess τ.outcome := houtcome ▸ herroneous
        obtain ⟨turns, hturns, hrest, hsearch⟩ :=
          ih (errors ++ [((candidate flag default c τ.seat).name, e)]) s₁
        refine ⟨τ :: turns, .cons rfl hplayed hon hturns, hchain.append hrest, ?_⟩
        rw [List.map_cons, List.map_cons, Turn.answer_eq houtcome]
        refine hsearch.cons herroneous fun r' hr' => ?_
        -- the error that was put behind those before is the first of the errors from here on
        have herrors : errorsOf ((τ.member.name, .ok r) :: turns.map Turn.answer) =
            (τ.member.name, e) :: errorsOf (turns.map Turn.answer) :=
          List.filterMap_cons_some (congrArg (Option.map _) herror)
        show Unsuccessful flag default
          (errors ++ errorsOf ((τ.member.name, .ok r) :: turns.map Turn.answer)) r'
        rw [herrors]
        rwa [List.append_assoc] at hr'

/-- All members are asked, each on a thread of its own. -/
theorem askAll_asked (settings : Comparison) (flag : String) (default : t.Value) (c : Context)
    (seats : List (Member × Option Captured)) (s : Store) :
    ∃ turns, Asked (Strategy.AsksOn (.comparison settings)) flag default c seats turns ∧
      Chain Store.Internal s (turns.flatMap (·.calls))
        ((askAll (seats.map (candidate flag default c))).on s).2 ∧
      ((askAll (seats.map (candidate flag default c))).on s).1 = .ok (turns.map Turn.answer) := by
  induction seats generalizing s with
  | nil => exact ⟨[], .nil, .done s, rfl⟩
  | cons seat rest ih =>
    let home : Store := { s with thread := s.threads, threads := s.threads + 1 }
    obtain ⟨τ, rfl, hplayed, hchain, houtcome⟩ := exists_turn flag default c seat home
    have hthread : Chain Store.Internal s τ.calls
        ((Eval.onThread (candidate flag default c τ.seat).ask).on s).2 := by
      have haway : s.Internal home := rfl
      have hback : ((candidate flag default c τ.seat).ask.on home).2.Internal
        ((Eval.onThread (candidate flag default c τ.seat).ask).on s).2 := rfl
      have h := Chain.own haway (hchain.append (.of_own hback))
      rwa [List.append_nil] at h
    obtain ⟨turns, hturns, hrest, hanswers⟩ :=
      ih ((Eval.onThread (candidate flag default c τ.seat).ask).on s).2
    rw [List.map_cons, askAll, Eval.on_bind_ok (Eval.on_onThread _ s), Eval.on_bind_pure]
    refine ⟨τ :: turns, .cons rfl hplayed trivial hturns, hthread.append hrest, ?_⟩
    rw [List.map_cons, Turn.answer_eq houtcome]
    exact congrArg (Except.map _) hanswers

/-- Calls that tell an observer that members differ. -/
def Told (flag : String) (calls : List Call) : Prop :=
  ∀ call ∈ calls, ∃ observer answers, call.request = .mismatch observer flag answers

theorem told_nil : Told flag [] := fun _ h => absurd h List.not_mem_nil

theorem Notified.told {settings : Comparison} {found : List (String × Resolution t.Value)}
    {calls : List Call} {outcome : Except Crash Unit}
    (h : Notified settings flag found calls outcome) : Told flag calls := by
  cases h with
  | silent => exact told_nil
  | called =>
    intro call hcall
    rw [List.mem_singleton.1 hcall]
    exact ⟨_, _, rfl⟩

theorem Compared.told {settings : Comparison} {answers : List (Answer t)} {calls : List Call}
    {outcome : Except Crash (Resolution t.Value)}
    (h : Compared settings flag default answers calls outcome) : Told flag calls := by
  cases h with
  | failed | unknown => exact told_nil
  | served _ _ htold | crashed _ htold => exact htold.told

/-- The record that members disagree on a flag. -/
def disagreementRecord (flag : String) : LogRecord :=
  ⟨.warn, "providers disagree on flag value", [("flag_key", .text flag)]⟩

/-- The record that members failed to evaluate a flag. -/
def failureRecord (flag : String) (errors : List (String × EvaluationError)) : LogRecord :=
  ⟨.warn, (Fault.membersFailed errors).message, [("flag_key", .text flag)]⟩

/-- What becomes of the store when a verdict is given on answers, and the calls that are made: it is
reported that members failed, or that they disagree, and then an observer may be told as well.
Otherwise nothing happens. -/
inductive Reported (settings : Comparison) (flag : String) (answers : List (Answer t)) (s : Store) :
    List Call → Store → Prop where
  | failures (h : failuresOf answers ≠ []) :
    Reported settings flag answers s []
      { s with log := s.log ++ [failureRecord flag (failuresOf answers)] }
  | nothing (h : failuresOf answers = []) (hsame : ¬ Differ (foundOf answers)) :
    Reported settings flag answers s [] s
  | disagreement {told : List Call} {outcome : Except Crash Unit} {s' : Store}
    (h : failuresOf answers = []) (hdiffer : Differ (foundOf answers))
    (htold : Notified settings flag (foundOf answers) told outcome)
    (hchain : Chain Eq { s with log := s.log ++ [disagreementRecord flag] } told s') :
    Reported settings flag answers s told s'

theorem Reported.chain {settings : Comparison} {answers : List (Answer t)} {s s' : Store}
    {told : List Call} (h : Reported settings flag answers s told s') :
    Chain Store.Internal s told s' := by
  cases h with
  | failures => exact .of_own rfl
  | nothing => exact .done s
  | disagreement _ _ _ hchain =>
    have hlog : s.Internal { s with log := s.log ++ [disagreementRecord flag] } := rfl
    exact .own hlog (hchain.mono fun _ _ h => h ▸ rfl)

theorem reportMismatch_notified (settings : Comparison) (flag : String)
    {found : List (String × Resolution t.Value)} (hdiffer : Differ found) (s : Store) :
    ∃ told, Chain Eq { s with log := s.log ++ [disagreementRecord flag] } told
        ((reportMismatch settings flag found).on s).2 ∧
      Notified settings flag found told ((reportMismatch settings flag found).on s).1 := by
  rw [reportMismatch, Eval.on_bind_ok (Eval.on_report ..)]
  cases hobserver : settings.onMismatch with
  | none => exact ⟨[], .done _, .silent (.inl hobserver)⟩
  | some observer =>
    exact ⟨[_], Chain.single (.mismatch observer flag _) _, .called hobserver hdiffer _⟩

theorem judge_compared (settings : Comparison) (flag : String) (default : t.Value)
    (answers : List (Answer t)) (s : Store) :
    ∃ told, Reported settings flag answers s told ((judge settings flag default answers).on s).2 ∧
      Compared settings flag default answers told
        ((judge settings flag default answers).on s).1 := by
  unfold judge
  rw [filterMap_spoiling?]
  cases hfailures : failuresOf answers with
  | cons e errors =>
    have hne : failuresOf answers ≠ [] := hfailures ▸ List.cons_ne_nil e errors
    have hreported : Reported settings flag answers s [] _ := .failures hne
    rw [hfailures] at hreported
    exact ⟨[], hreported, .failed hne (hfailures ▸ rfl)⟩
  | nil =>
    cases hfound : answers.filterMap Answer.found? with
    | nil =>
      have hsame : ¬ Differ (foundOf answers) := by
        rw [foundOf, hfound]
        rintro ⟨first, hfirst, -⟩
        cases hfirst
      exact ⟨[], .nothing hfailures hsame, .unknown hfailures hfound rfl⟩
    | cons first rest =>
      have hfound' : foundOf answers = first :: rest := hfound
      have hpicked : Picked settings.fallback (foundOf answers)
          (select settings.fallback first (first :: rest)) := by
        rw [hfound']
        exact picked_select settings.fallback first rest
      dsimp only
      cases hagree : agree (first :: rest) with
      | true =>
        have hsame : ¬ Differ (foundOf answers) := by
          rw [hfound', ← agree_eq_false_iff, hagree]
          decide
        exact ⟨[], .nothing hfailures hsame,
          .served hfailures hpicked (.silent (.inr hsame)) (named_tagged _ _)⟩
      | false =>
        have hdiffer : Differ (first :: rest) := (agree_eq_false_iff _).1 hagree
        obtain ⟨told, hchain, htold⟩ := reportMismatch_notified settings flag hdiffer s
        rw [if_neg Bool.false_ne_true, Eval.on_bind_pure]
        refine ⟨told, .disagreement hfailures (hfound' ▸ hdiffer) (hfound' ▸ htold) hchain, ?_⟩
        cases hreport : ((reportMismatch settings flag (first :: rest)).on s).1 with
        | error e => exact .crashed hfailures (hfound' ▸ hreport ▸ htold)
        | ok u => exact .served hfailures hpicked (hfound' ▸ hreport ▸ htold) (named_tagged _ _)

/-- A run of a combined provider: the turns of its members, as far as the strategy asks them, and an
observer who may be told that they differ. -/
structure Play (m : Multi) (flag : String) (default : t.Value) (c : Context) (s : Store)
    (turns : List (Turn t)) : Prop
    extends Asked m.strategy.AsksOn flag default c (seats flag t s m.members) turns where
  chain : ∃ told, Told flag told ∧ Chain Store.Internal s (turns.flatMap (·.calls) ++ told)
    ((m.evaluate t flag default c).on s).2

theorem exists_play (m : Multi) (flag : String) (default : t.Value) (c : Context) (s : Store) :
    ∃ turns, m.Play flag default c s turns := by
  have hfree := released_internal s m.members
  have hrun := m.on_evaluate flag default c s
  obtain ⟨members, strategy⟩ := m
  cases strategy with
  | firstMatch =>
    obtain ⟨turns, hturns, hchain, -⟩ := firstMatch_asked flag default c
      (Multi.seats flag t s members) (released s members)
    refine ⟨turns, hturns, [], told_nil, ?_⟩
    rw [List.append_nil, hrun]
    exact .own hfree hchain
  | firstSuccess =>
    obtain ⟨turns, hturns, hchain, -⟩ := firstSuccess_asked flag default c []
      (Multi.seats flag t s members) (released s members)
    refine ⟨turns, hturns, [], told_nil, ?_⟩
    rw [List.append_nil, hrun]
    exact .own hfree hchain
  | comparison settings =>
    obtain ⟨turns, hturns, hchain, -⟩ := askAll_asked settings flag default c
      (Multi.seats flag t s members) (released s members)
    refine ⟨turns, hturns, ?_⟩
    rw [hrun, Strategy.run, comparison]
    rcases hall : (askAll _).on (released s members) with ⟨e | answers, s₁⟩
    · rw [Eval.on_bind_error hall]
      rw [hall] at hchain
      refine ⟨[], told_nil, ?_⟩
      rw [List.append_nil]
      exact .own hfree hchain
    · rw [Eval.on_bind_ok hall]
      rw [hall] at hchain
      obtain ⟨told, hreported, hcompared⟩ := judge_compared settings flag default answers s₁
      exact ⟨told, hcompared.told, .own hfree (hchain.append hreported.chain)⟩

end Multi

end FeatureFlags
