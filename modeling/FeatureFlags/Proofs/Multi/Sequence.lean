import FeatureFlags.Proofs.Multi.Turns

/-!
# Members asked in sequence

Under the strategies that ask one member after the other, a run is the turns of the first members,
up to the one whose answer is served, and nothing else. Main statement: which answer that is, and
what is served if there is none.
-/
namespace FeatureFlags.Multi

variable {t : FlagType} {flag : String} {default : t.Value} {c : Context}

-- A member whose hook fails as if the flag were unknown is passed over.
example :
    let unknown : Hook := { before := fun _ _ => return .error ⟨.flagNotFound, none⟩ }
    let member (name : String) (hooks : List Hook) : Member :=
      ⟨name, .new 0 { name, hooks, resolve := fun _ _ default _ => return .ofValue default } []⟩
    (((Multi.mk [member "a" [unknown], member "b" []] .firstMatch).evaluate .boolean "f" true
      .empty).on (.fresh 0)).1 = .ok (tagged (.ofValue true) "b") := rfl

end FeatureFlags.Multi
