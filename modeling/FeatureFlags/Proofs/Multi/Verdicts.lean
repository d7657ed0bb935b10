import FeatureFlags.Multi.Provider
import FeatureFlags.Proofs.Calls
import FeatureFlags.Table.Lookup

/-!
# What comes of the answers of members

A verdict is about the names and answers of members alone: which answer is served, what is said when
there is none, and what an observer is told. The answers may be of any kind and in any order.
-/
namespace FeatureFlags.Multi

variable {t : FlagType}

/-- An answer with the name of its member; nothing else about it changes. -/
structure Named (name : String) (r served : Resolution t.Value) : Prop where
  value : served.value = r.value
  variant : served.variant = r.variant
  reason : served.reason = r.reason
  error : served.error = r.error
  metadata : ∀ key, served.metadata.get? key =
    if key = "multiprovider.provider" then some (.text name) else r.metadata.get? key

theorem named_tagged (r : Resolution t.Value) (name : String) : Named name r (tagged r name) where
  value := rfl
  variant := rfl
  reason := rfl
  error := rfl
  metadata key := Table.get?_insert r.metadata memberKey key (.text name)

/-- The default, since no member knows the flag. -/
def Missing (flag : String) (default : t.Value) (r : Resolution t.Value) : Prop :=
  r = .failed default ⟨.flagNotFound, some ("flag " ++ Text.quote flag ++ " not found")⟩

/-- The default, with an error that lists those of members behind their names. -/
def Lists (errors : List (String × EvaluationError)) (default : t.Value) (r : Resolution t.Value) :
    Prop :=
  r = .failed default ⟨.general, some ("providers failed to evaluate flag: " ++
    "; ".intercalate (errors.map fun e => e.1 ++ ": " ++ e.2.text))⟩

/-- The error of a member, if it failed. One that crashed failed as well. -/
def Answer.error? : Answer t → Option EvaluationError
  | (_, .ok r) => r.error
  | (_, .error _) => some ⟨.general, some "provider panicked"⟩

/-- The errors of members by name, in their order. -/
def errorsOf (answers : List (Answer t)) : List (String × EvaluationError) :=
  answers.filterMap fun a => (Answer.error? a).map (a.1, ·)

/-- The errors of members that failed otherwise than by not knowing the flag. -/
def failuresOf (answers : List (Answer t)) : List (String × EvaluationError) :=
  (errorsOf answers).filter fun e => e.2.code ≠ .flagNotFound

/-- The answers of members that know the flag, in their order. -/
def foundOf (answers : List (Answer t)) : List (String × Resolution t.Value) :=
  answers.filterMap Answer.found?

theorem filterMap_spoiling? (answers : List (Answer t)) :
    answers.filterMap Answer.spoiling? = failuresOf answers := by
  rw [failuresOf, errorsOf, List.filter_filterMap]
  congr 1
  funext ⟨name, outcome⟩
  cases outcome with
  | error e => rfl
  | ok r =>
    show (r.error.filter (·.code ≠ .flagNotFound)).map (name, ·) =
      (r.error.map (name, ·)).filter _
    cases r.error with
    | none => rfl
    | some e =>
      rw [Option.map_some, Option.filter_some, Option.filter_some]
      split <;> rfl

/-! ## In sequence -/

/-- How a search through members ends. The answers before the last one pass; the last one is served,
or breaks the search off. When all members have been asked and all pass, there is another answer. -/
inductive Search (passes : Resolution t.Value → Prop)
    (exhausted : List (Answer t) → Resolution t.Value → Prop) :
    List String → List (Answer t) → Except Crash (Resolution t.Value) → Prop where
  | won {earlier : List (Answer t)} {name : String} {r served : Resolution t.Value}
    (later : List String) (hearlier : ∀ a ∈ earlier, ∃ r, a.2 = .ok r ∧ passes r)
    (hwins : ¬ passes r) (hserved : Named name r served) :
    Search passes exhausted (earlier.map (·.1) ++ name :: later) (earlier ++ [(name, .ok r)])
      (.ok served)
  | crashed {earlier : List (Answer t)} {name : String}
    (later : List String) (hearlier : ∀ a ∈ earlier, ∃ r, a.2 = .ok r ∧ passes r) :
    Search passes exhausted (earlier.map (·.1) ++ name :: later)
      (earlier ++ [(name, .error .crash)]) (.error .crash)
  | exhausted {answers : List (Answer t)} {r : Resolution t.Value}
    (hall : ∀ a ∈ answers, ∃ r, a.2 = .ok r ∧ passes r) (hr : exhausted answers r) :
    Search passes exhausted (answers.map (·.1)) answers (.ok r)

section

variable {passes : Resolution t.Value → Prop}
  {exhausted exhausted' : List (Answer t) → Resolution t.Value → Prop} {names : List String}
  {answers : List (Answer t)} {outcome : Except Crash (Resolution t.Value)} {name : String}
  {first served : Resolution t.Value}

theorem Search.won_first (later : List String) (hwins : ¬ passes first)
    (hserved : Named name first served) :
    Search passes exhausted (name :: later) [(name, .ok first)] (.ok served) :=
  @Search.won t passes exhausted [] name first served later
    (fun _ h => absurd h List.not_mem_nil) hwins hserved

theorem Search.crashed_first (name : String) (later : List String) (e : Crash) :
    Search passes exhausted (name :: later) [(name, .error e)] (.error e) :=
  @Search.crashed t passes exhausted [] name later fun _ h => absurd h List.not_mem_nil

/-- A member whose answer passes, in front of a search. -/
theorem Search.cons (hpasses : passes first)
    (h : Search passes exhausted names answers outcome)
    (hnone : ∀ r, exhausted answers r → exhausted' ((name, .ok first) :: answers) r) :
    Search passes exhausted' (name :: names) ((name, .ok first) :: answers) outcome := by
  have hcons {l : List (Answer t)} (hl : ∀ a ∈ l, ∃ r, a.2 = .ok r ∧ passes r) :
      ∀ a ∈ (name, .ok first) :: l, ∃ r, a.2 = .ok r ∧ passes r :=
    List.forall_mem_cons.2 ⟨⟨first, rfl, hpasses⟩, hl⟩
  cases h with
  | won later hearlier hwins hserved => exact .won later (hcons hearlier) hwins hserved
  | crashed later hearlier => exact .crashed later (hcons hearlier)
  | exhausted hall hr => exact .exhausted (hcons hall) (hnone _ hr)

end

/-- What is served when all members fail: their errors are listed, unless none knows the flag. -/
def Unsuccessful (flag : String) (default : t.Value) (errors : List (String × EvaluationError))
    (r : Resolution t.Value) : Prop :=
  (∀ e ∈ errors, e.2.code = .flagNotFound) ∧ Missing flag default r ∨
    (∃ e ∈ errors, e.2.code ≠ .flagNotFound) ∧ Lists errors default r

/-! ## In comparison -/

/-- Whose answer is served: that of the fallback if it knows the flag, otherwise that of the first
member that does. -/
inductive Picked (fallback : Option String) :
    List (String × Resolution t.Value) → String × Resolution t.Value → Prop where
  | fallback {before behind : List (String × Resolution t.Value)}
    {chosen : String × Resolution t.Value} (h : fallback = some chosen.1)
    (hbefore : ∀ x ∈ before, x.1 ≠ chosen.1) :
    Picked fallback (before ++ chosen :: behind) chosen
  | first {chosen : String × Resolution t.Value} {rest : List (String × Resolution t.Value)}
    (h : ∀ name ∈ fallback, ∀ x ∈ chosen :: rest, x.1 ≠ name) :
    Picked fallback (chosen :: rest) chosen

theorem picked_select (fallback : Option String) (first : String × Resolution t.Value)
    (rest : List (String × Resolution t.Value)) :
    Picked fallback (first :: rest) (select fallback first (first :: rest)) := by
  rw [select]
  cases fallback with
  | none => exact .first fun _ h => nomatch h
  | some name =>
    rw [Option.bind_some]
    cases hfind : (first :: rest).find? (·.1 = name) with
    | none =>
      rw [Option.getD_none]
      apply Picked.first
      intro name' hname x hx
      cases hname
      simpa using List.find?_eq_none.1 hfind x hx
    | some chosen =>
      obtain ⟨hname, before, behind, hfound, hbefore⟩ := List.find?_eq_some_iff_append.1 hfind
      obtain rfl : chosen.1 = name := by simpa using hname
      rw [hfound, Option.getD_some]
      apply Picked.fallback rfl
      intro x hx
      simpa using hbefore x hx

/-- Some value is not equal to the first one. -/
def Differ (found : List (String × Resolution t.Value)) : Prop :=
  ∃ first ∈ found.head?, ∃ x ∈ found, t.agrees x.2.value first.2.value = false

theorem agree_eq_false_iff (found : List (String × Resolution t.Value)) :
    agree found = false ↔ Differ found := by
  cases found with
  | nil => simp [agree, Differ]
  | cons first rest =>
    rw [agree, List.all_eq_false]
    constructor
    · rintro ⟨x, hx, hdiffer⟩
      exact ⟨first, rfl, x, hx, Bool.eq_false_iff.2 hdiffer⟩
    · rintro ⟨_, ⟨⟩, x, hx, hdiffer⟩
      exact ⟨x, hx, Bool.eq_false_iff.1 hdiffer⟩

/-- An observer is told of all answers if there is one and the values differ. -/
inductive Notified (settings : Comparison) (flag : String)
    (found : List (String × Resolution t.Value)) : List Call → Except Crash Unit → Prop where
  | silent (h : settings.onMismatch = none ∨ ¬ Differ found) :
    Notified settings flag found [] (.ok ())
  | called {observer : String → List MemberAnswer → Eval Unit}
    (h : settings.onMismatch = some observer) (hdiffer : Differ found)
    (outcome : Except Crash Unit) :
    Notified settings flag found
      [⟨.mismatch observer flag (found.map fun x => ⟨x.1, x.2.toJson⟩), outcome⟩] outcome

/-- The verdict of a comparison. -/
inductive Compared (settings : Comparison) (flag : String) (default : t.Value)
    (answers : List (Answer t)) : List Call → Except Crash (Resolution t.Value) → Prop where
  | failed {r : Resolution t.Value} (h : failuresOf answers ≠ [])
    (hr : Lists (failuresOf answers) default r) : Compared settings flag default answers [] (.ok r)
  | unknown {r : Resolution t.Value} (h : failuresOf answers = []) (hnone : foundOf answers = [])
    (hr : Missing flag default r) : Compared settings flag default answers [] (.ok r)
  | served {told : List Call} {chosen : String × Resolution t.Value} {served : Resolution t.Value}
    (h : failuresOf answers = []) (hchosen : Picked settings.fallback (foundOf answers) chosen)
    (htold : Notified settings flag (foundOf answers) told (.ok ()))
    (hserved : Named chosen.1 chosen.2 served) :
    Compared settings flag default answers told (.ok served)
  | crashed {told : List Call} {e : Crash} (h : failuresOf answers = [])
    (htold : Notified settings flag (foundOf answers) told (.error e)) :
    Compared settings flag default answers told (.error e)

end FeatureFlags.Multi
