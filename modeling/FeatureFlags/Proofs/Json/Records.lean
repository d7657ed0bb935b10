import FeatureFlags.Proofs.Json.Levels
import FeatureFlags.Proofs.Text.Symbols

/-!
# Records as they are written

A record is written as an object of the fields that are there. Its reader finds under every name
what was written under it, and nothing under the name of a field that was left out
(`fields?_ofFields`).
-/
namespace FeatureFlags

namespace Json

/-- The object of the fields that are there. -/
def ofFields (fields : List (String × Option Json)) : Json :=
  .object (fields.filterMap fun f => f.2.map (f.1, ·))

theorem membersChars_filterMap (fields : List (String × Option Json)) :
    membersChars (fields.filterMap fun f => f.2.map (f.1, ·)) =
      (fields.map fun f => (f.1, f.2.map chars)).filterMap fun f => f.2.map (memberChars f.1) := by
  induction fields with
  | nil => rfl
  | cons f rest ih =>
    obtain ⟨name, _ | value⟩ := f
    · exact ih
    · exact congrArg (memberChars name value.chars :: ·) ih

/-- A record has the text of its object. -/
theorem render_ofFields (fields : List (String × Option Json)) : (ofFields fields).render =
    String.ofList (recordChars (fields.map fun f => (f.1, f.2.map chars))) := by
  rw [render, ofFields, chars, membersChars_filterMap, recordChars]

end Json

namespace Document

theorem membersOfJson_eq_map (members : List (String × Json)) :
    membersOfJson members = members.map fun m => (some m.1, ofJson m.2) := by
  induction members with
  | nil => rfl
  | cons m rest ih => exact congrArg (_ :: ·) ih

/-- The bytes of a text hold the document of the text. -/
theorem ofBytes?_toUTF8 (s : String) : ofBytes? s.toUTF8 = ofText? s := by
  rw [ofBytes?, ofText?, Text.symbols_toUTF8]

theorem ofBytes?_render (j : Json) : ofBytes? j.render.toUTF8 = some (ofJson j) := by
  rw [ofBytes?_toUTF8, ofText?_render]

/-! ## Fields under their names -/

theorem mapM_map_of_some {α β γ : Type} {f : α → β} {g : β → Option γ} {h : α → γ} {l : List α}
    (hall : ∀ a ∈ l, g (f a) = some (h a)) : (l.map f).mapM g = some (l.map h) := by
  induction l with
  | nil => rfl
  | cons a l ih =>
    obtain ⟨ha, hl⟩ := List.forall_mem_cons.1 hall
    rw [List.map_cons, List.mapM_cons, ha, ih hl]
    rfl

/-- The members of a record, as its reader goes through them. -/
def fieldMembers (fields : List (String × Option Json)) : List (String × Document) :=
  fields.filterMap fun f => f.2.map fun j => (f.1, ofJson j)

variable {fields : List (String × Option Json)} {name : String}

theorem filter_fieldMembers_of_not_mem (h : name ∉ fields.map (·.1)) :
    (fieldMembers fields).filter (·.1 = name) = [] := by
  refine List.filter_eq_nil_iff.2 fun m hm => ?_
  obtain ⟨f, hf, hvalue⟩ := List.mem_filterMap.1 hm
  obtain ⟨j, -, rfl⟩ := Option.map_eq_some_iff.1 hvalue
  intro heq
  exact h (List.mem_map.2 ⟨f, hf, of_decide_eq_true heq⟩)

/-- With distinct names, a member is found under the name of its field. -/
theorem member?_fieldMembers (hnodup : (fields.map (·.1)).Nodup) {f : String × Option Json}
    (hf : f ∈ fields) : member? (fieldMembers fields) f.1 = some (f.2.map ofJson) := by
  obtain ⟨front, behind, rfl⟩ := List.append_of_mem hf
  rw [List.map_append, List.map_cons, List.nodup_append] at hnodup
  obtain ⟨-, hbehind, hfront⟩ := hnodup
  have hnotFront : f.1 ∉ front.map (·.1) := fun hmem => hfront _ hmem _ List.mem_cons_self rfl
  have hnotBehind : f.1 ∉ behind.map (·.1) := (List.nodup_cons.1 hbehind).1
  have hsplit : fieldMembers (front ++ f :: behind) =
      fieldMembers front ++ (fieldMembers [f] ++ fieldMembers behind) := by
    rw [fieldMembers, List.filterMap_append, ← List.singleton_append, List.filterMap_append]
    rfl
  rw [member?, hsplit, List.filter_append, List.filter_append,
    filter_fieldMembers_of_not_mem hnotFront, filter_fieldMembers_of_not_mem hnotBehind]
  obtain ⟨name, _ | value⟩ := f
  · rfl
  · simp [fieldMembers]

/-- The reader of a record finds the values of all fields. -/
theorem fields?_ofFields (names : List String) (hnodup : names.Nodup)
    (hnames : fields.map (·.1) = names) (room : Nat) :
    fields? names (room + 1) (ofJson (Json.ofFields fields)) =
      some (room, ⟨false, fields.map fun f => f.2.map ofJson⟩) := by
  subst hnames
  let members := fields.filterMap fun f => f.2.map (f.1, ·)
  have hlisted : members.map (fun m => (m.1, ofJson m.2)) = fieldMembers fields := by
    rw [fieldMembers, List.map_filterMap]
    simp only [Option.map_map]
    rfl
  have hmembers : (membersOfJson members).mapM (fun m => m.1.map (·, m.2)) =
      some (fieldMembers fields) := by
    rw [membersOfJson_eq_map, ← hlisted]
    exact mapM_map_of_some fun m _ => rfl
  have hvalues : (fields.map (·.1)).mapM (member? (fieldMembers fields)) =
      some (fields.map fun f => f.2.map ofJson) :=
    mapM_map_of_some fun f hf => member?_fieldMembers hnodup hf
  rw [Json.ofFields, ofJson, fields?, hmembers, Option.bind_eq_bind, Option.bind_some, hvalues]
  rfl

/-! ## Fields that may be left out -/

/-- A field that was written for what is there is read as what a reader makes of it. -/
theorem Fields.optional_of_read {α β : Type} {f : Fields} {i : Nat} {read : Document → Option β}
    {x : Option α} {write : α → Document} {g : α → β} (h : f.get i = x.map write)
    (hread : ∀ a, x = some a → write a ≠ .null ∧ read (write a) = some (g a)) :
    f.optional i read = some (x.map g) := by
  rw [optional, orElse, h]
  cases x with
  | none => rfl
  | some a =>
    obtain ⟨hnull, hvalue⟩ := hread a rfl
    rw [Option.map_some]
    cases hd : write a with
    | null => exact absurd hd hnull
    | bool | number | text | array | object =>
      rw [hd] at hvalue
      exact congrArg (Option.map some) hvalue

theorem Fields.optional_of_written {α : Type} {f : Fields} {i : Nat} {read : Document → Option α}
    {x : Option α} {write : α → Document} (h : f.get i = x.map write)
    (hread : ∀ a, x = some a → write a ≠ .null ∧ read (write a) = some a) :
    f.optional i read = some x := by
  have hsame := Fields.optional_of_read (g := id) h hread
  rwa [Option.map_id] at hsame

end Document

end FeatureFlags
