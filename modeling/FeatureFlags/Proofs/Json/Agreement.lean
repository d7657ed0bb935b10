import FeatureFlags.Flag

/-!
# Equality of values as a relation

Values are compared as numbers and in depth. The comparison is symmetric and transitive for every
type of flag; a number that is invalid equals not even itself, so it is not reflexive.
-/
namespace FeatureFlags

theorem Double.agrees_trans {x y z : Double} (hxy : x.agrees y = true) (hyz : y.agrees z = true) :
    x.agrees z = true := by
  simp only [agrees, Bool.and_eq_true, Bool.or_eq_true, beq_iff_eq] at hxy hyz ⊢
  obtain ⟨⟨hx, hy⟩, hxy⟩ := hxy
  obtain ⟨⟨-, hz⟩, hyz⟩ := hyz
  refine ⟨⟨hx, hz⟩, ?_⟩
  rcases hxy with rfl | ⟨hzero, hzero'⟩
  · exact hyz
  · rcases hyz with rfl | ⟨-, hzero''⟩
    · exact .inr ⟨hzero, hzero'⟩
    · exact .inr ⟨hzero, hzero''⟩

namespace Json

theorem Number.agrees_comm (m n : Number) : m.agrees n = n.agrees m := by
  cases m <;> cases n
  case int.int i j => exact Bool.beq_comm
  case large.large => exact Bool.beq_comm
  case float.float x _ y _ => exact Double.agrees_comm x y
  all_goals rfl

theorem Number.agrees_trans {k m n : Number} (hkm : k.agrees m = true) (hmn : m.agrees n = true) :
    k.agrees n = true := by
  cases k <;> cases m <;> cases n
  case int.int.int => exact beq_iff_eq.2 ((beq_iff_eq.1 hkm).trans (beq_iff_eq.1 hmn))
  case large.large.large => exact beq_iff_eq.2 ((beq_iff_eq.1 hkm).trans (beq_iff_eq.1 hmn))
  case float.float.float => exact Double.agrees_trans hkm hmn
  all_goals first | cases hkm | cases hmn

mutual

theorem agrees_comm : ∀ a b : Json, agrees a b = agrees b a
  | .null, b => by cases b <;> rfl
  | .bool x, b => by
    cases b with
    | bool y => exact Bool.beq_comm
    | null | number _ | text _ | array _ | object _ => rfl
  | .number m, b => by
    cases b with
    | number n => exact Number.agrees_comm m n
    | null | bool _ | text _ | array _ | object _ => rfl
  | .text x, b => by
    cases b with
    | text y => exact Bool.beq_comm
    | null | bool _ | number _ | array _ | object _ => rfl
  | .array as, b => by
    cases b with
    | array bs => exact itemsAgree_comm as bs
    | null | bool _ | number _ | text _ | object _ => rfl
  | .object as, b => by
    cases b with
    | object bs => exact membersAgree_comm as bs
    | null | bool _ | number _ | text _ | array _ => rfl

theorem itemsAgree_comm : ∀ as bs : List Json, itemsAgree as bs = itemsAgree bs as
  | [], bs => by cases bs <;> rfl
  | a :: as, bs => by
    cases bs with
    | nil => rfl
    | cons b bs => rw [itemsAgree, itemsAgree, agrees_comm a b, itemsAgree_comm as bs]

theorem membersAgree_comm : ∀ as bs : List (String × Json), membersAgree as bs = membersAgree bs as
  | [], bs => by cases bs <;> rfl
  | (m, a) :: as, bs => by
    cases bs with
    | nil => rfl
    | cons b bs =>
      obtain ⟨n, b⟩ := b
      have hname : (m == n) = (n == m) := Bool.beq_comm
      rw [membersAgree, membersAgree, hname, agrees_comm a b, membersAgree_comm as bs]

end

mutual

theorem agrees_trans : ∀ {a b c : Json}, agrees a b = true → agrees b c = true → agrees a c = true
  | .null, b, c, hab, hbc => by
    cases b with
    | null => exact hbc
    | bool _ | number _ | text _ | array _ | object _ => cases hab
  | .bool x, b, c, hab, hbc => by
    cases b with
    | bool y => rwa [beq_iff_eq.1 hab]
    | null | number _ | text _ | array _ | object _ => cases hab
  | .number k, b, c, hab, hbc => by
    cases b with
    | number m =>
      cases c with
      | number n => exact Number.agrees_trans hab hbc
      | null | bool _ | text _ | array _ | object _ => cases hbc
    | null | bool _ | text _ | array _ | object _ => cases hab
  | .text x, b, c, hab, hbc => by
    cases b with
    | text y => rwa [beq_iff_eq.1 hab]
    | null | bool _ | number _ | array _ | object _ => cases hab
  | .array as, b, c, hab, hbc => by
    cases b with
    | array bs =>
      cases c with
      | array cs => exact itemsAgree_trans hab hbc
      | null | bool _ | number _ | text _ | object _ => cases hbc
    | null | bool _ | number _ | text _ | object _ => cases hab
  | .object as, b, c, hab, hbc => by
    cases b with
    | object bs =>
      cases c with
      | object cs => exact membersAgree_trans hab hbc
      | null | bool _ | number _ | text _ | array _ => cases hbc
    | null | bool _ | number _ | text _ | array _ => cases hab

theorem itemsAgree_trans : ∀ {as bs cs : List Json}, itemsAgree as bs = true →
    itemsAgree bs cs = true → itemsAgree as cs = true
  | [], [], _, _, hbc => hbc
  | [], _ :: _, _, hab, _ => nomatch hab
  | _ :: _, [], _, hab, _ => nomatch hab
  | _ :: _, _ :: _, [], _, hbc => nomatch hbc
  | a :: as, b :: bs, c :: cs, hab, hbc => by
    simp only [itemsAgree, Bool.and_eq_true] at hab hbc ⊢
    exact ⟨agrees_trans hab.1 hbc.1, itemsAgree_trans hab.2 hbc.2⟩

theorem membersAgree_trans : ∀ {as bs cs : List (String × Json)}, membersAgree as bs = true →
    membersAgree bs cs = true → membersAgree as cs = true
  | [], [], _, _, hbc => hbc
  | [], _ :: _, _, hab, _ => nomatch hab
  | _ :: _, [], _, hab, _ => nomatch hab
  | _ :: _, _ :: _, [], _, hbc => nomatch hbc
  | (k, a) :: as, (m, b) :: bs, (n, c) :: cs, hab, hbc => by
    simp only [membersAgree, Bool.and_eq_true, beq_iff_eq] at hab hbc ⊢
    obtain ⟨⟨hname, hab⟩, habs⟩ := hab
    obtain ⟨⟨hname', hbc⟩, hbcs⟩ := hbc
    exact ⟨⟨hname.trans hname', agrees_trans hab hbc⟩, membersAgree_trans habs hbcs⟩

end

end Json

namespace FlagType

theorem agrees_comm (t : FlagType) (a b : t.Value) : t.agrees a b = t.agrees b a := by
  cases t with
  | boolean | string | integer => exact Bool.beq_comm
  | float => exact Double.agrees_comm a b
  | object => exact Json.agrees_comm a b

theorem agrees_trans (t : FlagType) {a b c : t.Value} (hab : t.agrees a b = true)
    (hbc : t.agrees b c = true) : t.agrees a c = true := by
  cases t with
  | boolean | string | integer => exact beq_iff_eq.2 ((beq_iff_eq.1 hab).trans (beq_iff_eq.1 hbc))
  | float => exact Double.agrees_trans hab hbc
  | object => exact Json.agrees_trans hab hbc

end FlagType

end FeatureFlags
