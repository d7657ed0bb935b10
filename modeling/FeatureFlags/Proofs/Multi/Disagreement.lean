import FeatureFlags.Memory.Provider
import FeatureFlags.Proofs.Double.Value
import FeatureFlags.Proofs.Multi.Agreement

/-!
# Reports of disagreement

A comparison reports that members disagree when a value is not equal to the first one, and the first
one is compared with itself as well. Only an invalid number differs from itself (`agrees_self_iff`).
Without one nothing is reported of a single answer or of answers that are the same
(`disagreement_reported`); with one a single answer is reported.
-/
namespace FeatureFlags

/-! ## Values that equal themselves -/

namespace Json

mutual

theorem agrees_self : ∀ j : Json, j.agrees j = true
  | .null => rfl
  | .bool b => beq_self_eq_true b
  | .number (.int i) => beq_self_eq_true i
  | .number (.large n _) => beq_self_eq_true n
  | .number (.float _ finite) => Double.agrees_self (Double.not_isNaN finite)
  | .text s => beq_self_eq_true s
  | .array items => itemsAgree_self items
  | .object members => membersAgree_self members

theorem itemsAgree_self : ∀ items : List Json, itemsAgree items items = true
  | [] => rfl
  | item :: rest => by rw [itemsAgree, agrees_self item, itemsAgree_self rest, Bool.and_true]

theorem membersAgree_self : ∀ members : List (String × Json), membersAgree members members = true
  | [] => rfl
  | (name, value) :: rest => by
    rw [membersAgree, agrees_self value, membersAgree_self rest, beq_self_eq_true, Bool.and_true,
      Bool.and_true]

end

end Json

namespace FlagType

/-- A number that is invalid. Values of other types never are, whatever numbers they hold. -/
def Invalid : (t : FlagType) → t.Value → Prop
  | .float, x => x.isNaN = true
  | .boolean, _ | .string, _ | .integer, _ | .object, _ => False

theorem agrees_self_iff (t : FlagType) (v : t.Value) : t.agrees v v = true ↔ ¬t.Invalid v := by
  cases t with
  | boolean | string | integer => exact iff_of_true (beq_self_eq_true v) id
  | object => exact iff_of_true (Json.agrees_self v) id
  | float =>
    constructor
    · intro hself hinvalid
      have hinvalid : Double.isNaN v = true := hinvalid
      have hself : Double.agrees v v = true := hself
      rw [Double.agrees, hinvalid] at hself
      cases hself
    · intro hvalid
      exact Double.agrees_self (Bool.eq_false_iff.2 hvalid)

end FlagType

namespace Multi

variable {t : FlagType} {flag : String} {default : t.Value} {c : Context}

/-! ## Differing answers -/

section

variable {found : List (String × Resolution t.Value)}

/-- Answers differ if one of them is invalid, or if two of them that are not the same do. -/
theorem differ_iff_invalid_or : Differ found ↔
    (∃ x ∈ found, t.Invalid x.2.value) ∨
      ∃ x ∈ found, ∃ y ∈ found, x.2.value ≠ y.2.value ∧
        t.agrees x.2.value y.2.value = false := by
  rw [differ_iff]
  constructor
  · rintro ⟨x, hx, y, hy, hdiffer⟩
    by_cases hsame : x.2.value = y.2.value
    · left
      refine ⟨x, hx, Classical.not_not.1 fun hvalid => ?_⟩
      rw [← hsame, (t.agrees_self_iff _).2 hvalid] at hdiffer
      cases hdiffer
    · exact .inr ⟨x, hx, y, hy, hsame, hdiffer⟩
  · rintro (⟨x, hx, hinvalid⟩ | ⟨x, hx, y, hy, -, hdiffer⟩)
    · refine ⟨x, hx, x, hx, Bool.eq_false_iff.2 fun hself => ?_⟩
      exact (t.agrees_self_iff _).1 hself hinvalid
    · exact ⟨x, hx, y, hy, hdiffer⟩

/-- At most one answer, or all with the same value. -/
def Unanimous (found : List (String × Resolution t.Value)) : Prop :=
  found.length < 2 ∨ ∃ v, ∀ x ∈ found, x.2.value = v

theorem Unanimous.not_differ (h : Unanimous found) (hvalid : ∀ x ∈ found, ¬t.Invalid x.2.value) :
    ¬Differ found := by
  rw [differ_iff_invalid_or]
  rintro (⟨x, hx, hinvalid⟩ | ⟨x, hx, y, hy, hne, -⟩)
  · exact hvalid x hx hinvalid
  · rcases h with hfew | ⟨v, hall⟩
    · match found, hfew with
      | [], _ => cases hx
      | [z], _ =>
        rw [List.mem_singleton.1 hx, List.mem_singleton.1 hy] at hne
        exact hne rfl
      | _ :: _ :: _, hfew => exact absurd hfew (by simp)
    · exact hne ((hall x hx).trans (hall y hy).symm)

end

/-! ## Reports -/

theorem failureRecord_message_ne (flag : String) (errors : List (String × EvaluationError)) :
    (failureRecord flag errors).message ≠ "providers disagree on flag value" := by
  obtain ⟨summary, hmessage⟩ : ∃ summary, (failureRecord flag errors).message =
      "providers failed to evaluate flag: " ++ summary := ⟨_, rfl⟩
  intro heq
  rw [hmessage] at heq
  -- the two messages part at their eleventh character
  have hlead := congrArg (fun message => message.toList.take 11) heq
  simp only [String.toList_append] at hlead
  rw [List.take_append_of_le_length (by decide)] at hlead
  exact absurd hlead (by decide)

/-- Where answers do not differ, nobody is told, and at most a failure is logged. -/
theorem Reported.of_not_differ {settings : Comparison} {answers : List (Answer t)} {s s' : Store}
    {told : List Call} (h : Reported settings flag answers s told s')
    (hsame : ¬Differ (foundOf answers)) :
    told = [] ∧ ∃ records, s' = { s with log := s.log ++ records } ∧
      ∀ r ∈ records, r.message ≠ "providers disagree on flag value" := by
  cases h with
  | failures =>
    refine ⟨rfl, [_], rfl, List.forall_mem_singleton.2 ?_⟩
    exact failureRecord_message_ne flag (failuresOf answers)
  | nothing =>
    refine ⟨rfl, [], ?_, fun _ h => absurd h List.not_mem_nil⟩
    rw [List.append_nil]
  | disagreement _ hdiffer => exact absurd hdiffer hsame

/-- What a comparison reports when all members have answered. Members disagree if a value is invalid
or two values that are not the same differ. So without invalid values nobody is told and no
disagreement is logged where at most one member knows the flag or all that do serve one value. -/
theorem disagreement_reported (settings : Comparison) (flag : String) (default : t.Value)
    (c : Context) (members : List Member) (s : Store) :
    ∃ turns told s₁, Answered members flag default c s turns s₁ ∧
      let found := foundOf (turns.map Turn.answer)
      let s' := (((Multi.mk members (.comparison settings)).evaluate t flag default c).on s).2
      Reported settings flag (turns.map Turn.answer) s₁ told s' ∧
      (Differ found ↔ (∃ x ∈ found, t.Invalid x.2.value) ∨
        ∃ x ∈ found, ∃ y ∈ found, x.2.value ≠ y.2.value ∧
          t.agrees x.2.value y.2.value = false) ∧
      ((∀ x ∈ found, ¬t.Invalid x.2.value) → Unanimous found →
        told = [] ∧ ∃ records, s' = { s₁ with log := s₁.log ++ records } ∧
          ∀ r ∈ records, r.message ≠ "providers disagree on flag value") := by
  obtain ⟨turns, s₁, hanswered⟩ := exists_answered members flag default c s
  obtain ⟨told, hreported, -⟩ := judge_compared settings flag default (turns.map Turn.answer) s₁
  rw [← hanswered.on_evaluate] at hreported
  exact ⟨turns, told, s₁, hanswered, hreported, differ_iff_invalid_or, fun hvalid hsame =>
    hreported.of_not_differ (hsame.not_differ hvalid)⟩

theorem disagreement_reported_fixed :
    let on : Resolution Json := .ofValue (.bool true)
    let members := [Member.fixed "a" 0 on, Member.fixed "b" 1 on]
    ∃ turns told s₁, Answered (t := .boolean) members "flag" false .empty (.fresh 0) turns s₁ ∧
      foundOf (turns.map Turn.answer) = [("a", .ofValue true), ("b", .ofValue true)] ∧
      Reported (.observed "a") "flag" (turns.map Turn.answer) s₁ told
        (((Multi.mk members (.comparison (.observed "a"))).evaluate .boolean "flag" false
          .empty).on (.fresh 0)).2 ∧ told = [] := by
  intro on members
  obtain ⟨turns, told, s₁, hanswered, hreported, -, hquiet⟩ :=
    disagreement_reported (t := .boolean) (.observed "a") "flag" false .empty members (.fresh 0)
  have hanswers : turns.map Turn.answer =
      [("a", .ok (.ofValue true)), ("b", .ok (.ofValue true))] :=
    Except.ok.inj (congrArg Prod.fst hanswered.asked).symm
  have hfound : foundOf (turns.map Turn.answer) =
      [("a", .ofValue true), ("b", .ofValue true)] := by
    rw [hanswers]
    rfl
  refine ⟨turns, told, s₁, hanswered, hfound, hreported, (hquiet (fun _ _ => id) ?_).1⟩
  rw [hfound]
  exact .inr ⟨true, by simp [Resolution.ofValue]⟩

/-- A member that serves an invalid default, as its flag is disabled, disagrees with itself: it is
the only one, and yet a disagreement is logged and an observer told. -/
theorem disagreement_reported_alone :
    let observer (flag : String) (answers : List MemberAnswer) :=
      Eval.note "main" (.mismatch flag answers)
    let disabled : MemoryFlag := ⟨"on", .empty, false, none, .empty⟩
    let s : Store := { Store.fresh 0 with flags := fun _ => Table.empty.insert "f" disabled }
    let m : Multi := ⟨[⟨"a", .new 0 (Memory.provider 0) []⟩], .comparison ⟨none, some observer⟩⟩
    let run := (m.evaluate .float "f" Double.nan .empty).on s
    let answer : MemberAnswer := ⟨"a", ⟨.null, none, some .disabled, none, .empty⟩⟩
    m.members.length = 1 ∧ run.2.log = [disagreementRecord "f"] ∧
      run.2.journal = [("main", .mismatch "f" [answer])] :=
  ⟨rfl, rfl, rfl⟩

end Multi

end FeatureFlags
