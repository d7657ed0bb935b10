import FeatureFlags.Table
import FeatureFlags.Double.Rounding

/-!
# JSON values

A number keeps the form in which it was given: an integer of 64 bits with sign, a larger integer of
64 bits without sign, or a finite binary64 number. An object holds its members as an entry list;
values that come from a text or from a table have them in ascending order.
-/
namespace FeatureFlags

inductive Json.Number where
  | int (value : Int64)
  | large (value : UInt64) (above : 0x8000000000000000 ≤ value.toNat)
  | float (value : Double) (finite : value.isFinite = true)
deriving DecidableEq

namespace Json.Number

/-- An integer as a number, if one of the two forms of 64 bits holds it. -/
def ofInt? (i : Int) : Option Number :=
  if -0x8000000000000000 ≤ i ∧ i < 0x8000000000000000 then some (.int (Int64.ofInt i))
  else if h : 0x8000000000000000 ≤ i ∧ i < 0x10000000000000000 then
    some (.large (UInt64.ofNatLT i.toNat (by rw [UInt64.size]; omega)) (by
      rw [UInt64.toNat_ofNatLT]; omega))
  else none

/-- A number whose value is not finite has no JSON form. -/
def ofDouble? (x : Double) : Option Number :=
  if h : x.isFinite then some (.float x h) else none

def toInt64? : Number → Option Int64
  | .int i => some i
  | .large .. | .float .. => none

/-- The nearest binary64 number. -/
def toDouble : Number → Double
  | .int i => Double.ofInt i.toInt
  | .large n _ => Double.ofInt n.toNat
  | .float x _ => x

/-- Equality within one form; an integer is not equal to a float. -/
def agrees : Number → Number → Bool
  | .int i, .int j => i == j
  | .large m _, .large n _ => m == n
  | .float x _, .float y _ => x.agrees y
  | _, _ => false

end Json.Number

inductive Json where
  | null
  | bool (value : Bool)
  | number (value : Json.Number)
  | text (value : String)
  | array (items : List Json)
  | object (members : List (String × Json))

namespace Json

instance : Inhabited Json := ⟨.null⟩

mutual

/-- Equality of values, with floats compared as numbers. -/
def agrees : Json → Json → Bool
  | .null, .null => true
  | .bool a, .bool b => a == b
  | .number a, .number b => a.agrees b
  | .text a, .text b => a == b
  | .array a, .array b => itemsAgree a b
  | .object a, .object b => membersAgree a b
  | _, _ => false

def itemsAgree : List Json → List Json → Bool
  | [], [] => true
  | a :: as, b :: bs => agrees a b && itemsAgree as bs
  | _, _ => false

def membersAgree : List (String × Json) → List (String × Json) → Bool
  | [], [] => true
  | (m, a) :: as, (n, b) :: bs => m == n && agrees a b && membersAgree as bs
  | _, _ => false

end

mutual

private def decEq : (a b : Json) → Decidable (a = b)
  | .null, .null => isTrue rfl
  | .bool a, .bool b => decidable_of_iff (a = b) (by simp)
  | .number a, .number b => decidable_of_iff (a = b) (by simp)
  | .text a, .text b => decidable_of_iff (a = b) (by simp)
  | .array a, .array b => match itemsDecEq a b with
    | isTrue h => isTrue (h ▸ rfl)
    | isFalse h => isFalse fun e => h (Json.array.inj e)
  | .object a, .object b => match membersDecEq a b with
    | isTrue h => isTrue (h ▸ rfl)
    | isFalse h => isFalse fun e => h (Json.object.inj e)
  | .null, .bool _ | .null, .number _ | .null, .text _ | .null, .array _ | .null, .object _
  | .bool _, .null | .bool _, .number _ | .bool _, .text _ | .bool _, .array _ | .bool _, .object _
  | .number _, .null | .number _, .bool _ | .number _, .text _ | .number _, .array _
  | .number _, .object _ | .text _, .null | .text _, .bool _ | .text _, .number _
  | .text _, .array _ | .text _, .object _ | .array _, .null | .array _, .bool _
  | .array _, .number _ | .array _, .text _ | .array _, .object _ | .object _, .null
  | .object _, .bool _ | .object _, .number _ | .object _, .text _ | .object _, .array _ =>
    isFalse nofun

private def itemsDecEq : (a b : List Json) → Decidable (a = b)
  | [], [] => isTrue rfl
  | a :: as, b :: bs => match decEq a b, itemsDecEq as bs with
    | isTrue h, isTrue t => isTrue (by rw [h, t])
    | isFalse h, _ => isFalse fun e => h (List.cons.inj e).1
    | _, isFalse t => isFalse fun e => t (List.cons.inj e).2
  | [], _ :: _ | _ :: _, [] => isFalse nofun

private def membersDecEq : (a b : List (String × Json)) → Decidable (a = b)
  | [], [] => isTrue rfl
  | (m, a) :: as, (n, b) :: bs => match decEq a b, membersDecEq as bs with
    | isTrue h, isTrue t =>
      if e : m = n then isTrue (by rw [h, t, e])
      else isFalse fun f => e (Prod.mk.inj (List.cons.inj f).1).1
    | isFalse h, _ => isFalse fun e => h (Prod.mk.inj (List.cons.inj e).1).2
    | _, isFalse t => isFalse fun e => t (List.cons.inj e).2
  | [], _ :: _ | _ :: _, [] => isFalse nofun

end

instance : DecidableEq Json := decEq

def toBool? : Json → Option Bool
  | .bool b => some b
  | _ => none

def toText? : Json → Option String
  | .text s => some s
  | _ => none

def toNumber? : Json → Option Number
  | .number n => some n
  | _ => none

/-- The JSON form of a binary64 number; one that is not finite is written as null. -/
def ofDouble (x : Double) : Json :=
  match Number.ofDouble? x with
  | some n => .number n
  | none => .null

def ofInt64 (i : Int64) : Json := .number (.int i)

def ofTable (t : Table Json) : Json := .object t.entries

end Json

end FeatureFlags
