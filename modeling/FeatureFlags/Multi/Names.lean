import FeatureFlags.Settings.SetupError

/-!
# Names of members

Members of a combined provider have distinct names. A name that is given stays; a member without one
is named after its provider, with a number behind the name if that is shared or taken.
-/
namespace FeatureFlags.Multi

/-- The first name that repeats an earlier one; `seen` has those that came before the list. -/
def duplicate? (seen : List String) : List String → Option String
  | [] => none
  | name :: rest => if seen.contains name then some name else duplicate? (name :: seen) rest

/-- A base with the least number that makes it new. -/
def numbered (taken : List String) (base : String) : String :=
  let candidates := (List.range' 1 (taken.length + 1)).map fun i => base ++ "-" ++ toString i
  (candidates.find? fun name => !taken.contains name).getD base

/-- Names for members, each with the name given to it and that of its provider. -/
def assign (shared : String → Bool) (taken : List String) :
    List (Option String × String) → List String
  | [] => []
  | (some name, _) :: rest => name :: assign shared taken rest
  | (none, base) :: rest =>
    let name := if !shared base && !taken.contains base then base else numbered taken base
    name :: assign shared (name :: taken) rest

def uniqueNames (members : List (Option String × String)) : Except SetupError (List String) :=
  let given := members.filterMap (·.1)
  match duplicate? [] given with
  | some name => .error (.duplicateMember name)
  | none =>
    let bases := (members.filter (·.1.isNone)).map (·.2)
    .ok (assign (fun base => 1 < bases.count base) given members)

end FeatureFlags.Multi
