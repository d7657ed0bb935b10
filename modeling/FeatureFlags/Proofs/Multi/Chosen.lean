import FeatureFlags.Multi.Provider
import FeatureFlags.Proofs.Lifecycle.Passed
import FeatureFlags.Proofs.Multi.Turns

/-!
# Whose answer a strategy serves

Under every strategy the answer is the caller's default with an error, or that of one of the
members, with its name. What is known of the answers of members is known of the one that is served.
-/
namespace FeatureFlags.Multi

variable {I : List Call → Store → Prop} {F : List Call → Prop} {t : FlagType} {flag : String}
  {default : t.Value} {B : Candidate t → Resolution t.Value → List Call → Prop}
  {members : List (Candidate t)}

/-- The default with an error, or the answer of a member, which is known to be one of `B`. -/
def Chosen (default : t.Value) (members : List (Candidate t))
    (B : Candidate t → Resolution t.Value → List Call → Prop) (r : Resolution t.Value)
    (past : List Call) : Prop :=
  (∃ e, r = .failed default e) ∨ ∃ x ∈ members, ∃ r₀, B x r₀ past ∧ r = tagged r₀ x.name

theorem Chosen.cons {x : Candidate t} {r : Resolution t.Value} {past : List Call}
    (h : Chosen default members B r past) : Chosen default (x :: members) B r past := by
  rcases h with hfailed | ⟨y, hy, r₀, hr₀, htagged⟩
  · exact .inl hfailed
  · exact .inr ⟨y, List.mem_cons_of_mem x hy, r₀, hr₀, htagged⟩

theorem failure_yields (hI : Lasting I) (errors : List (String × EvaluationError)) :
    Yields I F (failure flag default errors) (Chosen default members B) :=
  (Yields.report hI _ _ _).bind fun _ => Yields.pure _ fun _ _ => .inl ⟨_, rfl⟩

theorem firstMatch_yields (h : ∀ x ∈ members, Yields I (fun _ => True) x.ask (B x)) :
    Yields I (fun _ => True) (firstMatch flag default members) (Chosen default members B) := by
  induction members with
  | nil => exact Yields.pure _ fun _ _ => .inl ⟨_, rfl⟩
  | cons x rest ih =>
    refine (h x List.mem_cons_self).bind fun r => ?_
    split
    · have hrest := ih fun y hy => h y (List.mem_cons_of_mem x hy)
      exact hrest.mono (fun _ _ => trivial) fun _ _ => Chosen.cons
    · exact Yields.pure _ fun _ hr => .inr ⟨x, List.mem_cons_self, r, hr, rfl⟩

theorem firstSuccess_yields (hI : Lasting I) (errors : List (String × EvaluationError))
    (h : ∀ x ∈ members, Yields I (fun _ => True) x.ask (B x)) :
    Yields I (fun _ => True) (firstSuccess flag default errors members)
      (Chosen default members B) := by
  induction members generalizing errors with
  | nil =>
    rw [firstSuccess]
    split
    · exact Yields.pure _ fun _ _ => .inl ⟨_, rfl⟩
    · exact failure_yields hI errors
  | cons x rest ih =>
    refine (h x List.mem_cons_self).bind fun r => ?_
    cases r.error with
    | none => exact Yields.pure _ fun _ hr => .inr ⟨x, List.mem_cons_self, r, hr, rfl⟩
    | some e =>
      have hrest := ih (errors ++ [(x.name, e)]) fun y hy => h y (List.mem_cons_of_mem x hy)
      exact hrest.mono (fun _ _ => trivial) fun _ _ => Chosen.cons

/-- An answer from a thread of its own is that of a member of the name. -/
def Given (members : List (Candidate t)) (B : Candidate t → Resolution t.Value → List Call → Prop)
    (answer : Answer t) (past : List Call) : Prop :=
  ∀ r, answer.2 = .ok r → ∃ x ∈ members, answer.1 = x.name ∧ B x r past

theorem askAll_yields (hI : Lasting I) (hB : ∀ x r, Grows (B x r))
    (h : ∀ x ∈ members, Yields I (fun _ => True) x.ask (B x)) :
    Yields I (fun _ => True) (askAll members) fun answers past =>
      ∀ answer ∈ answers, Given members B answer past := by
  induction members with
  | nil => exact Yields.pure _ fun _ _ _ ha => absurd ha List.not_mem_nil
  | cons x rest ih =>
    refine (Yields.onThread hI (h x List.mem_cons_self)).bind fun outcome => ?_
    have hfirst : Grows fun past => ∀ r, outcome = .ok r → B x r past :=
      fun past more hr r ho => hB x r past more (hr r ho)
    refine ((ih fun y hy => h y (List.mem_cons_of_mem x hy)).frame hfirst).bind fun answers => ?_
    refine Yields.pure _ fun past ⟨hrest, hx⟩ answer hanswer r hr => ?_
    rcases List.mem_cons.1 hanswer with rfl | hanswer
    · exact ⟨x, List.mem_cons_self, rfl, hx r hr⟩
    · obtain ⟨y, hy, hname, hB⟩ := hrest answer hanswer r hr
      exact ⟨y, List.mem_cons_of_mem x hy, hname, hB⟩

/-- The observer of a comparison, if there is one, keeps an invariant. -/
def Comparison.Keeps (I : List Call → Store → Prop) (settings : Comparison) : Prop :=
  ∀ observer, settings.onMismatch = some observer →
    ∀ flag answers, (Request.mismatch observer flag answers).Keeps I

theorem reportMismatch_yields (flag : String) (hI : Lasting I) {settings : Comparison}
    (hsettings : settings.Keeps I) (found : List (String × Resolution t.Value)) :
    Yields I F (reportMismatch settings flag found) fun _ _ => True := by
  refine (Yields.report hI _ _ _).bind fun _ => ?_
  rcases htell : settings.onMismatch with _ | observer
  · exact Yields.pure _ fun _ _ => trivial
  · have hcall := hsettings observer htell flag (found.map fun r => ⟨r.1, r.2.toJson⟩)
    exact (Yields.request _ hcall).post fun _ _ _ => trivial

theorem select_mem (fallback : Option String) {first : String × Resolution t.Value}
    {found : List (String × Resolution t.Value)} (hfirst : first ∈ found) :
    select fallback first found ∈ found := by
  rw [select]
  rcases hchosen : fallback.bind fun name => found.find? (·.1 = name) with _ | chosen
  · rwa [hchosen, Option.getD_none]
  · rw [hchosen, Option.getD_some]
    obtain ⟨name, -, hfind⟩ := Option.bind_eq_some_iff.1 hchosen
    exact List.mem_of_find?_eq_some hfind

theorem mem_of_found? {answers : List (Answer t)} {name : String} {r : Resolution t.Value}
    (h : (name, r) ∈ answers.filterMap Answer.found?) : (name, .ok r) ∈ answers := by
  obtain ⟨⟨name', outcome⟩, hmem, hfound⟩ := List.mem_filterMap.1 h
  rcases outcome with e | r'
  · cases hfound
  · rw [Answer.found?] at hfound
    split at hfound
    · cases hfound
    · cases hfound
      exact hmem

theorem judge_yields (hI : Lasting I) {settings : Comparison} (hsettings : settings.Keeps I)
    (hB : ∀ x r, Grows (B x r)) (answers : List (Answer t)) :
    Yields I (fun past => ∀ answer ∈ answers, Given members B answer past)
      (judge settings flag default answers) (Chosen default members B) := by
  unfold judge
  split
  · exact failure_yields hI _
  · split
    · exact Yields.pure _ fun _ _ => .inl ⟨_, rfl⟩
    next first rest hfound =>
      have hgiven : Grows fun past => ∀ answer ∈ answers, Given members B answer past := by
        intro past more hpast answer hanswer r hr
        obtain ⟨x, hx, hname, hBx⟩ := hpast answer hanswer r hr
        exact ⟨x, hx, hname, hB x r past more hBx⟩
      have hserved : ∀ chosen ∈ answers.filterMap Answer.found?,
          Yields I (fun past => ∀ answer ∈ answers, Given members B answer past)
            (pure (tagged chosen.2 chosen.1)) (Chosen default members B) := by
        rintro ⟨name, r⟩ hmem
        refine Yields.pure _ fun past h => ?_
        obtain ⟨x, hx, rfl, hr⟩ := h (name, .ok r) (mem_of_found? hmem) r rfl
        exact .inr ⟨x, hx, r, hr, rfl⟩
      have hmem : select settings.fallback first (first :: rest) ∈
          answers.filterMap Answer.found? := by
        rw [hfound]
        exact select_mem _ List.mem_cons_self
      dsimp only
      split
      · exact hserved _ hmem
      · have hreport : Yields I (fun _ => True)
            (reportMismatch settings flag (first :: rest)) fun _ _ => True :=
          reportMismatch_yields flag hI hsettings _
        exact (hreport.frame hgiven).bind fun _ => (hserved _ hmem).pre fun _ h => h.2

/-- Whatever is known of the answers of members is known of the one that is served. -/
theorem run_yields (hI : Lasting I) {strategy : Strategy}
    (hobserver : ∀ settings, strategy = .comparison settings → settings.Keeps I)
    (hB : ∀ x r, Grows (B x r)) (h : ∀ x ∈ members, Yields I (fun _ => True) x.ask (B x)) :
    Yields I (fun _ => True) (strategy.run flag default members) (Chosen default members B) := by
  cases strategy with
  | firstMatch => exact firstMatch_yields h
  | firstSuccess => exact firstSuccess_yields hI [] h
  | comparison settings =>
    refine (askAll_yields hI hB h).bind fun answers => ?_
    exact judge_yields hI (hobserver settings rfl) hB answers

end FeatureFlags.Multi
