import Mathlib.Data.List.Nodup
import FeatureFlags.Proofs.Json.Agreement
import FeatureFlags.Proofs.Multi.Turns
import FeatureFlags.Scripted.Provider

/-!
# Members in comparison

Under comparison every member is asked, and one verdict comes of all answers. Main statement: which
verdict that is, and what of it is left when the members are put in another order while the fallback
knows the flag.
-/
namespace FeatureFlags.Multi

variable {t : FlagType} {flag : String} {default : t.Value} {c : Context}

/-! ## Verdicts in another order -/

theorem Named.unique {name : String} {r served served' : Resolution t.Value}
    (h : Named name r served) (h' : Named name r served') : served = served' := by
  have hmetadata : served.metadata = served'.metadata :=
    Table.ext_get? fun key => (h.metadata key).trans (h'.metadata key).symm
  obtain ⟨value, variant, reason, error, metadata⟩ := served
  obtain ⟨value', variant', reason', error', metadata'⟩ := served'
  obtain rfl : value = value' := h.value.trans h'.value.symm
  obtain rfl : variant = variant' := h.variant.trans h'.variant.symm
  obtain rfl : reason = reason' := h.reason.trans h'.reason.symm
  obtain rfl : error = error' := h.error.trans h'.error.symm
  obtain rfl : metadata = metadata' := hmetadata
  rfl

section

variable {found found' : List (String × Resolution t.Value)} {answers answers' : List (Answer t)}
  {settings : Comparison}

/-- Whether values differ does not hang on which of them is the first. -/
theorem differ_iff :
    Differ found ↔ ∃ x ∈ found, ∃ y ∈ found, t.agrees x.2.value y.2.value = false := by
  constructor
  · rintro ⟨first, hfirst, x, hx, hdiffer⟩
    exact ⟨x, hx, first, List.mem_of_head? hfirst, hdiffer⟩
  · rintro ⟨x, hx, y, hy, hdiffer⟩
    cases found with
    | nil => cases hx
    | cons first rest =>
      cases hxf : t.agrees x.2.value first.2.value with
      | false => exact ⟨first, rfl, x, hx, hxf⟩
      | true =>
        cases hyf : t.agrees y.2.value first.2.value with
        | false => exact ⟨first, rfl, y, hy, hyf⟩
        | true =>
          -- both are equal to the first one, and so to each other
          rw [t.agrees_comm] at hyf
          rw [t.agrees_trans hxf hyf] at hdiffer
          cases hdiffer

theorem differ_perm (h : found.Perm found') : Differ found ↔ Differ found' := by
  simp only [differ_iff, h.mem_iff]

theorem failuresOf_perm (h : answers.Perm answers') :
    (failuresOf answers).Perm (failuresOf answers') :=
  (h.filterMap _).filter _

theorem foundOf_perm (h : answers.Perm answers') : (foundOf answers).Perm (foundOf answers') :=
  h.filterMap _

theorem mem_foundOf {name : String} {r : Resolution t.Value} (h : (name, .ok r) ∈ answers)
    (hr : r.isError = false) : (name, r) ∈ foundOf answers := by
  have hfound : Answer.found? (name, .ok r) = some (name, r) := by rw [Answer.found?, hr]; rfl
  exact List.mem_filterMap.2 ⟨_, h, hfound⟩

/-- The members that know the flag stand in the order of all. -/
theorem names_foundOf_sublist (answers : List (Answer t)) :
    ((foundOf answers).map (·.1)).Sublist (answers.map (·.1)) := by
  induction answers with
  | nil => exact List.Sublist.slnil
  | cons a rest ih =>
    cases hfound : Answer.found? a with
    | none =>
      rw [foundOf, List.filterMap_cons_none hfound]
      exact ih.cons a.1
    | some x =>
      rw [foundOf, List.filterMap_cons_some hfound]
      obtain ⟨name, e | r⟩ := a
      · cases hfound
      · rw [Answer.found?] at hfound
        split at hfound
        · cases hfound
        · cases hfound
          exact ih.cons_cons name

/-- The answer of the fallback is picked, wherever it stands. -/
theorem Picked.eq_of_mem {fallback : Option String} {chosen x : String × Resolution t.Value}
    (h : Picked fallback found chosen) (hnames : (found.map (·.1)).Nodup) (hx : x ∈ found)
    (hfallback : fallback = some x.1) : chosen = x := by
  cases h with
  | fallback hchosen hbefore =>
    have hname : chosen.1 = x.1 := Option.some.inj (hchosen.symm.trans hfallback)
    exact List.inj_on_of_nodup_map hnames (List.mem_append_right _ List.mem_cons_self) hx hname
  | first hnone => exact absurd rfl (hnone x.1 hfallback x hx)

theorem Notified.eq_nil_iff {told : List Call} {outcome : Except Crash Unit}
    (h : Notified settings flag found told outcome) :
    told = [] ↔ settings.onMismatch = none ∨ ¬ Differ found := by
  cases h with
  | silent h => exact iff_of_true rfl h
  | called hobserver hdiffer =>
    apply iff_of_false (List.cons_ne_nil _ _)
    rintro (hnone | hsame)
    · rw [hobserver] at hnone
      cases hnone
    · exact hsame hdiffer

/-- When an observer is left alone. -/
theorem Compared.told_eq_nil_iff {told : List Call} {outcome : Except Crash (Resolution t.Value)}
    (h : Compared settings flag default answers told outcome) :
    told = [] ↔
      failuresOf answers ≠ [] ∨ settings.onMismatch = none ∨ ¬ Differ (foundOf answers) := by
  cases h with
  | failed h => exact iff_of_true rfl (.inl h)
  | unknown h hnone =>
    apply iff_of_true rfl
    right; right
    rw [hnone]
    rintro ⟨first, hfirst, -⟩
    cases hfirst
  | served h _ htold | crashed h htold =>
    rw [htold.eq_nil_iff, h]
    simp

/-- Two results are the same, or they list the same errors of more than one member in two orders. -/
def SameButOrder (default : t.Value) (errors errors' : List (String × EvaluationError))
    (r r' : Resolution t.Value) : Prop :=
  r = r' ∨
    1 < errors.length ∧ errors.Perm errors' ∧ Lists errors default r ∧ Lists errors' default r'

/-- One error has one order only. -/
theorem sameButOrder_of_lists {errors errors' : List (String × EvaluationError)}
    (hperm : errors.Perm errors') {r r' : Resolution t.Value} (h : Lists errors default r)
    (h' : Lists errors' default r') : SameButOrder default errors errors' r r' := by
  by_cases hmany : 1 < errors.length
  · exact .inr ⟨hmany, hperm, h, h'⟩
  · left
    have hsame : errors = errors' := by
      rcases errors with _ | ⟨e, _ | ⟨e', rest⟩⟩
      · exact hperm.nil_eq
      · exact List.singleton_perm.1 hperm
      · exact absurd (Nat.succ_lt_succ (Nat.succ_pos _)) hmany
    rw [← hsame] at h'
    exact h.trans h'.symm

/-- Members with names of their own may stand in any order while the fallback knows the flag. -/
theorem Compared.reordered (hperm : answers.Perm answers') (hnames : (answers.map (·.1)).Nodup)
    {x : String × Resolution t.Value} (hx : x ∈ foundOf answers)
    (hfallback : settings.fallback = some x.1) {told told' : List Call}
    {outcome outcome' : Except Crash (Resolution t.Value)}
    (h : Compared settings flag default answers told outcome)
    (h' : Compared settings flag default answers' told' outcome') :
    (told = [] ↔ told' = []) ∧ ∀ r r', outcome = .ok r → outcome' = .ok r' →
      SameButOrder default (failuresOf answers) (failuresOf answers') r r' := by
  have hfailures := failuresOf_perm hperm
  have hfound := foundOf_perm hperm
  have hnil : failuresOf answers = [] ↔ failuresOf answers' = [] :=
    ⟨fun h => (h ▸ hfailures).nil_eq.symm, fun h => (h ▸ hfailures).eq_nil⟩
  constructor
  · rw [h.told_eq_nil_iff, h'.told_eq_nil_iff, differ_perm hfound, ne_eq, hnil]
  · rintro r r' rfl rfl
    cases h with
    | failed hne hr =>
      cases h' with
      | failed _ hr' => exact sameButOrder_of_lists hfailures hr hr'
      | unknown hnone | served hnone => exact absurd (hnil.2 hnone) hne
    | unknown _ hnone =>
      rw [hnone] at hx
      cases hx
    | served hnone hpicked _ hserved =>
      have hdistinct : ((foundOf answers).map (·.1)).Nodup :=
        hnames.sublist (names_foundOf_sublist answers)
      obtain rfl := hpicked.eq_of_mem hdistinct hx hfallback
      have hx' := hfound.mem_iff.1 hx
      cases h' with
      | failed hne => exact absurd (hnil.1 hnone) hne
      | unknown _ hnone =>
        rw [hnone] at hx'
        cases hx'
      | served _ hpicked' _ hserved' =>
        have hdistinct' := (hfound.map (·.1)).nodup_iff.1 hdistinct
        obtain rfl := hpicked'.eq_of_mem hdistinct' hx' hfallback
        exact .inl (hserved.unique hserved')

end

/-! ## Runs -/

/-- A run that evaluates every member once, and then tells an observer at most. -/
structure Compares (members : List Member) (settings : Comparison) (flag : String)
    (default : t.Value) (c : Context) (s : Store) (turns : List (Turn t)) (told : List Call) :
    Prop where
  all : turns.map (·.member) = members
  played : ∀ τ ∈ turns, τ.Played flag default c
  chain : Chain Store.Internal s (turns.flatMap (·.calls) ++ told)
    (((Multi.mk members (.comparison settings)).evaluate t flag default c).on s).2
  compared : Compared settings flag default (turns.map Turn.answer) told
    (((Multi.mk members (.comparison settings)).evaluate t flag default c).on s).1

/-- The part of a run in which every member is asked: the store in which all of them have answered,
and only the verdict is to come. -/
structure Answered (members : List Member) (flag : String) (default : t.Value) (c : Context)
    (s : Store) (turns : List (Turn t)) (s₁ : Store) : Prop where
  all : turns.map (·.member) = members
  played : ∀ τ ∈ turns, τ.Played flag default c
  chain : Chain Store.Internal s (turns.flatMap (·.calls)) s₁
  asked : (askAll ((seats flag t s members).map (candidate flag default c))).on
    (released s members) = (.ok (turns.map Turn.answer), s₁)

theorem exists_answered (members : List Member) (flag : String) (default : t.Value) (c : Context)
    (s : Store) : ∃ turns s₁, Answered members flag default c s turns s₁ := by
  obtain ⟨turns, hasked, hchain, hanswers⟩ :=
    askAll_asked ⟨none, none⟩ flag default c (seats flag t s members) (released s members)
  have hseats : turns.map Turn.seat = seats flag t s members := by
    rcases hasked.ends with hall | ⟨τ, -, hend⟩
    · exact hall
    · exact absurd trivial hend
  rcases hall : (askAll ((seats flag t s members).map (candidate flag default c))).on
    (released s members) with ⟨outcome, s₁⟩
  rw [hall] at hchain hanswers
  obtain rfl : outcome = .ok (turns.map Turn.answer) := hanswers
  refine ⟨turns, s₁, ?_, hasked.played, .own (released_internal s members) hchain, hall⟩
  have hmembers := congrArg (List.map (·.1)) hseats
  rwa [map_seats, List.map_map] at hmembers

/-- A comparison goes on with the verdict on all answers. -/
theorem Answered.on_evaluate {members : List Member} {s s₁ : Store} {turns : List (Turn t)}
    (h : Answered members flag default c s turns s₁) (settings : Comparison) :
    ((Multi.mk members (.comparison settings)).evaluate t flag default c).on s =
      (judge settings flag default (turns.map Turn.answer)).on s₁ := by
  rw [Multi.on_evaluate, Strategy.run, comparison, Eval.on_bind_ok h.asked]

theorem exists_compares (members : List Member) (settings : Comparison) (flag : String)
    (default : t.Value) (c : Context) (s : Store) :
    ∃ turns told, Compares members settings flag default c s turns told := by
  obtain ⟨turns, s₁, h⟩ := exists_answered members flag default c s
  obtain ⟨told, hreported, hcompared⟩ :=
    judge_compared settings flag default (turns.map Turn.answer) s₁
  refine ⟨turns, told, h.all, h.played, ?_, ?_⟩
  · rw [h.on_evaluate]
    exact h.chain.append hreported.chain
  · rw [h.on_evaluate]
    exact hcompared

/-- Turns of the same members with the same outcomes, in any order. -/
def Shuffled (turns turns' : List (Turn t)) : Prop :=
  (turns.map fun τ => (τ.member, τ.outcome)).Perm (turns'.map fun τ => (τ.member, τ.outcome))

theorem Shuffled.answers {turns turns' : List (Turn t)} (h : Shuffled turns turns') :
    (turns.map Turn.answer).Perm (turns'.map Turn.answer) := by
  have hanswers := h.map fun x => ((x.1.name, x.2) : Answer t)
  rwa [List.map_map, List.map_map] at hanswers

/-- In comparison every member is evaluated once, and the verdict is that of all answers. While the
fallback knows the flag, another order of the members changes neither whether an observer is told
nor the result, apart from the order in which the errors of several members are listed. -/
theorem comparison_served (settings : Comparison) (flag : String) (default : t.Value)
    (c : Context) :
    (∀ members s, ∃ turns told, Compares members settings flag default c s turns told) ∧
    ∀ members members' s s' (turns turns' : List (Turn t)) told told',
      Compares members settings flag default c s turns told →
      Compares members' settings flag default c s' turns' told' →
      Shuffled turns turns' → (members.map (·.name)).Nodup →
      (∃ τ ∈ turns, settings.fallback = some τ.member.name ∧
        ∃ r, τ.outcome = .ok r ∧ r.isError = false) →
      (told = [] ↔ told' = []) ∧
      ∀ r r',
        (((Multi.mk members (.comparison settings)).evaluate t flag default c).on s).1 = .ok r →
        (((Multi.mk members' (.comparison settings)).evaluate t flag default c).on s').1 = .ok r' →
        SameButOrder default (failuresOf (turns.map Turn.answer))
          (failuresOf (turns'.map Turn.answer)) r r' := by
  constructor
  · intro members s
    exact exists_compares members settings flag default c s
  · intro members members' s s' turns turns' told told' h h' hshuffled hnames hfound
    obtain ⟨τ, hτ, hfallback, r, hr, hvalid⟩ := hfound
    have hdistinct : ((turns.map Turn.answer).map (·.1)).Nodup := by
      rw [← h.all, List.map_map] at hnames
      rwa [List.map_map]
    have hanswer : (τ.member.name, .ok r) ∈ turns.map Turn.answer := by
      rw [← Turn.answer_eq hr.symm]
      exact List.mem_map_of_mem hτ
    exact h.compared.reordered hshuffled.answers hdistinct (mem_foundOf hanswer hvalid) hfallback
      h'.compared

/-! ## Fixed members -/

/-- A member without hooks that gives one answer. -/
def Member.fixed (name : String) (owner : Nat) (answer : Resolution Json) : Member :=
  ⟨name, .new owner (Scripted.fixed name answer) []⟩

/-- When two members fail, the order shows in the message, though the fallback knows the flag. -/
theorem order_of_errors_shows :
    let down : Resolution Json := .failed .null ⟨.general, some "down"⟩
    let f := Member.fixed "f" 0 (.ofValue (.bool true))
    let a := Member.fixed "a" 1 down
    let b := Member.fixed "b" 2 down
    let run (members : List Member) := (((Multi.mk members (.comparison ⟨some "f", none⟩)).evaluate
      .boolean "flag" false .empty).on (.fresh 0)).1.map (·.error)
    let failed (message : String) : Except Crash (Option EvaluationError) :=
      .ok (some ⟨.general, some ("providers failed to evaluate flag: " ++ message)⟩)
    ((f.isolator.evaluate none .boolean "flag" false .empty).on (.fresh 0)).1 =
        .ok (.ofValue true) ∧
      run [f, a, b] = failed "a: GENERAL: down; b: GENERAL: down" ∧
      run [f, b, a] = failed "b: GENERAL: down; a: GENERAL: down" ∧
      run [f, a, b] ≠ run [f, b, a] := by
  refine ⟨rfl, rfl, rfl, ?_⟩
  intro h
  have hmessage := congrArg (fun o => o.toOption.join.bind (·.message)) h
  revert hmessage
  decide

/-- The turn of a member that serves one value. -/
def Turn.serving (name : String) (value : Bool) : Turn .boolean :=
  let member := Member.fixed name 0 (.ofValue (.bool value))
  let r : Resolution FlagType.boolean.Value := .ofValue value
  let ask := member.isolator.provider.resolve .boolean "flag" false
  ⟨member, none, [⟨.resolve .boolean ask .empty, .ok r⟩], .ok r⟩

theorem Turn.serving_played (name : String) (value : Bool) :
    (serving name value).Played "flag" false .empty := by
  apply Ends.returned
  exact @Lifecycle.Course.settled .boolean _ _ _ _ _ [] rfl _ _ (.accepted rfl)

/-- A fallback, and an observer who does nothing. -/
def Comparison.observed (name : String) : Comparison := ⟨some name, some fun _ _ => return ()⟩

/-- Two members that serve different values. -/
theorem compares_differing (fallback name name' : String) (value : Bool) :
    let turns := [Turn.serving name value, Turn.serving name' !value]
    ∃ told, told ≠ [] ∧ Compares (turns.map (·.member)) (.observed fallback) "flag" false .empty
      (.fresh 0) turns told := by
  intro turns
  let found := [(name, Resolution.ofValue value), (name', Resolution.ofValue !value)]
  let told : Call := ⟨.mismatch (fun _ _ => return ()) "flag"
    (found.map fun x => ⟨x.1, (x.2.map Json.bool)⟩), .ok ()⟩
  have hdiffer : Differ (t := .boolean) found :=
    ⟨_, rfl, _, List.mem_cons_of_mem _ List.mem_cons_self, by cases value <;> rfl⟩
  refine ⟨[told], List.cons_ne_nil _ _, rfl, ?_, ?_, ?_⟩
  · exact List.forall_mem_cons.2 ⟨Turn.serving_played name value,
      List.forall_mem_singleton.2 (Turn.serving_played name' !value)⟩
  · cases value
    · exact .call rfl (.call rfl (.call rfl (.of_own rfl)))
    · exact .call rfl (.call rfl (.call rfl (.of_own rfl)))
  · have hpicked := picked_select (t := .boolean) (some fallback) (name, .ofValue value)
      [(name', .ofValue !value)]
    have hnotified : Notified (t := .boolean) (.observed fallback) "flag" found [told] (.ok ()) :=
      .called rfl hdiffer _
    have hserved : Compared (.observed fallback) "flag" false (turns.map Turn.answer) [told] _ :=
      .served rfl hpicked hnotified (named_tagged _ _)
    cases value
    · exact hserved
    · exact hserved

theorem comparison_served_in_two_orders :
    let turns := [Turn.serving "f" true, Turn.serving "g" false]
    let turns' := [Turn.serving "g" false, Turn.serving "f" true]
    let run (turns : List (Turn .boolean)) := (((Multi.mk (turns.map (·.member))
      (.comparison (.observed "f"))).evaluate .boolean "flag" false .empty).on (.fresh 0)).1
    ∃ told told' r r',
      Compares (turns.map (·.member)) (.observed "f") "flag" false .empty (.fresh 0) turns told ∧
      Compares (turns'.map (·.member)) (.observed "f") "flag" false .empty (.fresh 0) turns' told' ∧
      Shuffled turns turns' ∧ ((turns.map (·.member)).map (·.name)).Nodup ∧
      run turns = .ok r ∧ run turns' = .ok r' ∧ r.value = true ∧ told ≠ [] ∧
      (told = [] ↔ told' = []) ∧ SameButOrder false (failuresOf (turns.map Turn.answer))
        (failuresOf (turns'.map Turn.answer)) r r' := by
  intro turns turns' run
  obtain ⟨told, htold, hcompares⟩ := compares_differing "f" "f" "g" true
  obtain ⟨told', -, hcompares'⟩ := compares_differing "f" "g" "f" false
  have hshuffled : Shuffled turns turns' := List.Perm.swap ..
  have hnames : ((turns.map (·.member)).map (·.name)).Nodup := by decide
  have hfound : ∃ τ ∈ turns, (Comparison.observed "f").fallback = some τ.member.name ∧
      ∃ r, τ.outcome = .ok r ∧ r.isError = false :=
    ⟨_, List.mem_cons_self, rfl, _, rfl, rfl⟩
  have hlaw := (comparison_served (.observed "f") "flag" false .empty).2 _ _ _ _ _ _ _ _ hcompares
    hcompares' hshuffled hnames hfound
  exact ⟨told, told', _, _, hcompares, hcompares', hshuffled, hnames, rfl, rfl, rfl, htold, hlaw.1,
    hlaw.2 _ _ rfl rfl⟩

end FeatureFlags.Multi
