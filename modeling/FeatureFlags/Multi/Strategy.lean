import FeatureFlags.Store.Basic

/-!
# Strategies

How one answer comes of several members. In sequence, the first answer that is about the flag wins,
or the first without an error. In comparison all are asked, each on a thread of its own; a member
that fails spoils the answer, and members that disagree are reported. The answer names its member.
-/
namespace FeatureFlags.Multi

variable {t : FlagType}

/-- A member as a strategy sees it: a name, and a question that can be asked once. -/
structure Candidate (t : FlagType) where
  name : String
  ask : Eval (Resolution t.Value)

structure Comparison where
  /-- The member whose answer is served; without one, the first that knows the flag. -/
  fallback : Option String
  /-- Told of the flag and of all answers when they differ. -/
  onMismatch : Option (String → List MemberAnswer → Eval Unit)

inductive Strategy where
  | firstMatch
  | firstSuccess
  | comparison (settings : Comparison)

/-- The metadata entry that names the member that answered. -/
def memberKey : String := "multiprovider.provider"

def tagged (r : Resolution t.Value) (name : String) : Resolution t.Value :=
  r.withMetadata memberKey (.text name)

def notFound (flag : String) (default : t.Value) : Resolution t.Value :=
  .failed default (Fault.flagNotFound flag).error

/-- The failure of several members, which is also logged. -/
def failure (flag : String) (default : t.Value) (errors : List (String × EvaluationError)) :
    Eval (Resolution t.Value) := do
  Eval.report .warn (Fault.membersFailed errors).message [("flag_key", .text flag)]
  return .failed default (Fault.membersFailed errors).error

/-! ## In sequence -/

def firstMatch (flag : String) (default : t.Value) :
    List (Candidate t) → Eval (Resolution t.Value)
  | [] => return notFound flag default
  | member :: rest => do
    let r ← member.ask
    if r.errorCode? = some .flagNotFound then firstMatch flag default rest
    else return tagged r member.name

/-- Asks on, with the errors of the members asked before. -/
def firstSuccess (flag : String) (default : t.Value) (errors : List (String × EvaluationError)) :
    List (Candidate t) → Eval (Resolution t.Value)
  | [] =>
    if errors.all (·.2.code = .flagNotFound) then return notFound flag default
    else failure flag default errors
  | member :: rest => do
    let r ← member.ask
    match r.error with
    | none => return tagged r member.name
    | some e => firstSuccess flag default (errors ++ [(member.name, e)]) rest

/-! ## In comparison -/

abbrev Answer (t : FlagType) := String × Except Crash (Resolution t.Value)

def askAll : List (Candidate t) → Eval (List (Answer t))
  | [] => return []
  | member :: rest => do
    let answer ← Eval.onThread member.ask
    let answers ← askAll rest
    return (member.name, answer) :: answers

/-- The error that a member spoils the answer with, if any. -/
def Answer.spoiling? : Answer t → Option (String × EvaluationError)
  | (name, .error _) => some (name, Fault.memberCrashed.error)
  | (name, .ok r) => (r.error.filter (·.code ≠ .flagNotFound)).map (name, ·)

/-- The answer of a member that knows the flag. -/
def Answer.found? : Answer t → Option (String × Resolution t.Value)
  | (name, .ok r) => if r.isError then none else some (name, r)
  | (_, .error _) => none

/-- Whether all values are equal to the first one. -/
def agree : List (String × Resolution t.Value) → Bool
  | [] => true
  | first :: rest => (first :: rest).all fun r => t.agrees r.2.value first.2.value

def select (fallback : Option String) (first : String × Resolution t.Value)
    (found : List (String × Resolution t.Value)) : String × Resolution t.Value :=
  (fallback.bind fun name => found.find? (·.1 = name)).getD first

def reportMismatch (settings : Comparison) (flag : String)
    (found : List (String × Resolution t.Value)) : Eval Unit := do
  Eval.report .warn "providers disagree on flag value" [("flag_key", .text flag)]
  if let some tell := settings.onMismatch then
    tell flag (found.map fun r => ⟨r.1, r.2.toJson⟩)

/-- The answer from those of all members. -/
def judge (settings : Comparison) (flag : String) (default : t.Value) (answers : List (Answer t)) :
    Eval (Resolution t.Value) :=
  match answers.filterMap Answer.spoiling? with
  | e :: errors => failure flag default (e :: errors)
  | [] =>
    match answers.filterMap Answer.found? with
    | [] => return notFound flag default
    | first :: rest => do
      let found := first :: rest
      unless agree found do reportMismatch settings flag found
      let chosen := select settings.fallback first found
      return tagged chosen.2 chosen.1

def comparison (settings : Comparison) (flag : String) (default : t.Value)
    (members : List (Candidate t)) : Eval (Resolution t.Value) := do
  judge settings flag default (← askAll members)

def Strategy.run (s : Strategy) (flag : String) (default : t.Value)
    (members : List (Candidate t)) : Eval (Resolution t.Value) :=
  match s with
  | firstMatch => Multi.firstMatch flag default members
  | firstSuccess => Multi.firstSuccess flag default [] members
  | comparison settings => Multi.comparison settings flag default members

end FeatureFlags.Multi
