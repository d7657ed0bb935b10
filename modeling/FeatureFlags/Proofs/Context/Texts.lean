import FeatureFlags.Proofs.Context.Inverse
import FeatureFlags.Proofs.Json.Records

/-!
# Attributes and contexts as texts

Attributes are read from documents and written as texts directly. Both ways agree with the way over
JSON values (`ofDocument?_eq`, `chars_toJson`), so that what holds for the texts of values holds for
those of attributes: one without numbers that are not finite is read from its own text, and so is a
context of such attributes (`texts_agree`).
-/
namespace FeatureFlags

namespace Entries

variable {α : Type u} {β : Type v}

theorem map_insert (f : α → β) (name : String) (value : α) (entries : List (String × α)) :
    (insert name value entries).map (fun e => (e.1, f e.2)) =
      insert name (f value) (entries.map fun e => (e.1, f e.2)) := by
  induction entries with
  | nil => rfl
  | cons head rest ih =>
    obtain ⟨n, v⟩ := head
    rw [insert, List.map_cons, insert]
    split
    · rfl
    · split
      · rfl
      · rw [List.map_cons, ih]

/-- Entries are put in order by their names alone. -/
theorem map_ofList (f : α → β) (entries : List (String × α)) :
    (ofList entries).map (fun e => (e.1, f e.2)) = ofList (entries.map fun e => (e.1, f e.2)) := by
  have hfold (sorted : List (String × α)) :
      (entries.foldl (fun sorted e => insert e.1 e.2 sorted) sorted).map (fun e => (e.1, f e.2)) =
        (entries.map fun e => (e.1, f e.2)).foldl (fun sorted e => insert e.1 e.2 sorted)
          (sorted.map fun e => (e.1, f e.2)) := by
    induction entries generalizing sorted with
    | nil => rfl
    | cons e rest ih => rw [List.foldl_cons, List.map_cons, List.foldl_cons, ih, map_insert]
  exact hfold []

end Entries

namespace Attribute

/-! ## Reading -/

theorem fieldsOfJson_eq_map (members : List (String × Json)) :
    fieldsOfJson members = members.map fun m => (m.1, ofJson m.2) := by
  induction members with
  | nil => rfl
  | cons m rest ih => exact congrArg (_ :: ·) ih

theorem fieldsOfJson_ofList (members : List (String × Json)) :
    fieldsOfJson (Entries.ofList members) = Entries.ofList (fieldsOfJson members) := by
  rw [fieldsOfJson_eq_map, fieldsOfJson_eq_map, Entries.map_ofList]

mutual

/-- An attribute is read from a document exactly if a value is, and is the one of that value. -/
theorem ofDocument?_eq : ∀ (room : Nat) (d : Document),
    ofDocument? room d = (Json.ofDocument? room d).map ofJson
  | _, .null | _, .bool _ => rfl
  | _, .number n => by
    rcases n with _ | (i | i | x) <;> rfl
  | _, .text s => by cases s <;> rfl
  | 0, .array _ | 0, .object _ => rfl
  | room + 1, .array items => by
    rw [ofDocument?, Json.ofDocument?, itemsOfDocuments?_eq room items, Option.map_map,
      Option.map_map]
    rfl
  | room + 1, .object members => by
    rw [ofDocument?, Json.ofDocument?, fieldsOfDocuments?_eq room members, Option.map_map,
      Option.map_map]
    -- fields are put in order after they are read, members before they are turned into fields
    congr 1
    funext read
    exact congrArg struct (fieldsOfJson_ofList read).symm

theorem itemsOfDocuments?_eq : ∀ (room : Nat) (items : List Document),
    itemsOfDocuments? room items = (Json.itemsOfDocuments? room items).map itemsOfJson
  | _, [] => rfl
  | room, d :: rest => by
    rw [itemsOfDocuments?, Json.itemsOfDocuments?, ofDocument?_eq room d,
      itemsOfDocuments?_eq room rest]
    cases Json.ofDocument? room d with
    | none => rfl
    | some value => cases Json.itemsOfDocuments? room rest <;> rfl

theorem fieldsOfDocuments?_eq : ∀ (room : Nat) (members : List (Option String × Document)),
    fieldsOfDocuments? room members = (Json.membersOfDocuments? room members).map fieldsOfJson
  | _, [] => rfl
  | _, (none, _) :: _ => rfl
  | room, (some name, d) :: rest => by
    rw [fieldsOfDocuments?, Json.membersOfDocuments?, ofDocument?_eq room d,
      fieldsOfDocuments?_eq room rest]
    cases Json.ofDocument? room d with
    | none => rfl
    | some value => cases Json.membersOfDocuments? room rest <;> rfl

end

theorem ofText?_eq (s : String) : ofText? s = (Json.ofText? s).map ofJson := by
  rw [ofText?, Json.ofText?]
  cases Document.ofText? s with
  | none => rfl
  | some d => exact ofDocument?_eq Document.maxDepth d

/-! ## Writing -/

theorem chars_float (x : Double) : (Json.ofDouble x).chars = (float x).chars := by
  rw [Json.ofDouble, Json.Number.ofDouble?, chars]
  split
  next hnumber =>
    split at hnumber
    next hfinite =>
      obtain rfl := Option.some.inj hnumber
      rw [if_pos hfinite]
      rfl
    next => cases hnumber
  next hnone =>
    split at hnone
    next => cases hnone
    next hfinite => rw [if_neg hfinite, Json.chars]

mutual

theorem chars_toJson : ∀ a : Attribute, a.toJson.chars = a.chars
  | .null | .bool true | .bool false | .int _ | .text _ => rfl
  | .float x => chars_float x
  | .list items => by rw [toJson, Json.chars, chars, itemsChars_toJson items]
  | .struct fields => by rw [toJson, Json.chars, chars, membersChars_toJson fields]

theorem itemsChars_toJson : ∀ items : List Attribute,
    Json.itemsChars (itemsToJson items) = itemsChars items
  | [] => rfl
  | a :: rest => by
    rw [itemsToJson, Json.itemsChars, itemsChars, chars_toJson a, itemsChars_toJson rest]

theorem membersChars_toJson : ∀ fields : List (String × Attribute),
    Json.membersChars (fieldsToJson fields) = fieldsChars fields
  | [] => rfl
  | (name, a) :: rest => by
    rw [fieldsToJson, Json.membersChars, fieldsChars, chars_toJson a, membersChars_toJson rest]

end

theorem render_toJson (a : Attribute) : a.toJson.render = a.render :=
  congrArg String.ofList (chars_toJson a)

/-! ## Reading what was written -/

/-- An attribute that is read as it is: all of its numbers are finite, its fields are in order of
their names, and it is not too deep. -/
structure Readable (room : Nat) (a : Attribute) : Prop where
  allFinite : a.AllFinite
  fits : a.toJson.Fits room

variable {room : Nat} {a : Attribute}

theorem Readable.read (h : a.Readable room) :
    ofDocument? room (Document.ofJson a.toJson) = some a := by
  rw [ofDocument?_eq, h.fits.read, Option.map_some, ofJson_toJson,
    finite_of_allFinite h.allFinite]

theorem Readable.ofText?_render (h : a.Readable Document.maxDepth) : ofText? a.render = some a := by
  rw [ofText?, ← render_toJson, Document.ofText?_render]
  exact h.read

theorem fieldsToJson_eq_map (fields : List (String × Attribute)) :
    fieldsToJson fields = fields.map fun f => (f.1, f.2.toJson) := by
  induction fields with
  | nil => rfl
  | cons f rest ih => exact congrArg (_ :: ·) ih

theorem fieldsAllFinite {fields : List (String × Attribute)} (h : ∀ f ∈ fields, f.2.AllFinite) :
    FieldsAllFinite fields := by
  induction fields with
  | nil => trivial
  | cons f rest ih =>
    obtain ⟨hf, hrest⟩ := List.forall_mem_cons.1 h
    exact ⟨hf, ih hrest⟩

/-- Attributes one level down make up a readable structure. -/
theorem readable_struct {attributes : Attributes}
    (h : ∀ name a, attributes.get? name = some a → a.Readable room) :
    (struct attributes.entries).Readable (room + 1) := by
  have hentry : ∀ e ∈ attributes.entries, e.2.Readable room := by
    intro e he
    have hnames := attributes.ascending.names_distinct
    exact h e.1 e.2 ((Entries.get?_eq_some_iff hnames e.1 e.2).2 he)
  refine ⟨fieldsAllFinite fun e he => (hentry e he).allFinite, ?_⟩
  rw [toJson, fieldsToJson_eq_map]
  refine Json.fits_object (attributes.ascending.map toJson) fun m hm => ?_
  obtain ⟨e, he, rfl⟩ := List.mem_map.1 hm
  exact (hentry e he).fits

theorem readTable {attributes : Attributes} (h : (struct attributes.entries).Readable room) :
    tableOfDocument? room (Document.ofJson (struct attributes.entries).toJson) =
      some attributes := by
  rw [tableOfDocument?, h.read]
  exact congrArg some attributes.ofList_entries

end Attribute

namespace Context

variable {c : Context}

/-- The fields of a context, those left out that are not there. -/
def fields (c : Context) : List (String × Option Json) :=
  [(targetingKeyName, c.targetingKey.map .text),
   ("attributes", some (Attribute.struct c.attributes.entries).toJson)]

theorem render_eq (c : Context) : c.render = (Json.ofFields c.fields).render := by
  have hkey :
      (c.targetingKey.map Json.text).map Json.chars = c.targetingKey.map Json.textChars := by
    rw [Option.map_map]
    rfl
  rw [Json.render_ofFields, render, fields]
  simp only [List.map_cons, List.map_nil, hkey, Option.map_some, Attribute.chars_toJson]

/-- The attributes of a context are two levels down in its text. -/
theorem ofText?_render
    (h : ∀ name a, c.attribute? name = some a → a.Readable (Document.maxDepth - 2)) :
    ofText? c.render = some c := by
  obtain ⟨room, hroom⟩ : ∃ room, Document.maxDepth = room + 2 := ⟨_, rfl⟩
  rw [hroom, Nat.add_sub_cancel] at h
  have hattributes := Attribute.readTable (Attribute.readable_struct h)
  have hnames : c.fields.map (·.1) = [targetingKeyName, "attributes"] := rfl
  have hfields := Document.fields?_ofFields _ (by decide) hnames (room + 1)
  rw [ofText?, render_eq, Document.ofText?_render, hroom, Option.bind_eq_bind, Option.bind_some,
    ofDocument?, hfields, Option.bind_eq_bind, Option.bind_some]
  let found : Document.Fields := ⟨false, c.fields.map fun f => f.2.map Document.ofJson⟩
  have hkey : found.optional 0 Document.toText? = some c.targetingKey :=
    Document.Fields.optional_of_written (Option.map_map _ _ _) fun _ _ => ⟨nofun, rfl⟩
  have htable : found.orElse 1 .empty (Attribute.tableOfDocument? (room + 1)) =
      some c.attributes := hattributes
  simp only [found] at hkey htable
  simp only [hkey, htable]
  rfl

/-- Attributes are read and written alike with a value in between and without one, whatever the text
or the attribute. One without numbers that are not finite is read from its own text, if readers take
its levels, and so is a context, of which a targeting key is kept that is empty. -/
theorem texts_agree :
    (∀ s, Attribute.ofText? s = (Json.ofText? s).map Attribute.ofJson) ∧
    (∀ a : Attribute, a.render = a.toJson.render) ∧
    (∀ a : Attribute, a.Readable Document.maxDepth → Attribute.ofText? a.render = some a) ∧
    ∀ c : Context, (∀ name a, c.attribute? name = some a → a.Readable (Document.maxDepth - 2)) →
      ofText? c.render = some c :=
  ⟨Attribute.ofText?_eq, fun a => (Attribute.render_toJson a).symm,
    fun _ => Attribute.Readable.ofText?_render, fun _ => ofText?_render⟩

theorem texts_agree_unnamed :
    unnamed.targetingKey = some "" ∧ ofText? unnamed.render = some unnamed ∧
      ∃ plan, unnamed.attribute? "plan" = some plan ∧ plan.Readable Document.maxDepth ∧
        Attribute.ofText? plan.render = some plan := by
  obtain ⟨-, -, hattribute, hcontext⟩ := texts_agree
  let plan : Attribute := .struct [("seats", .list [.int 3, .float (.ofInt 1)])]
  have hreadable {room : Nat} (hroom : 2 ≤ room) : plan.Readable room := by
    have hone : (Double.ofInt 1).isFinite = true := by decide
    have hordered : plan.toJson.Ordered :=
      ⟨List.pairwise_singleton _ _, ⟨trivial, trivial, trivial⟩, trivial⟩
    exact ⟨⟨⟨trivial, hone, trivial⟩, trivial⟩, hordered, hroom⟩
  refine ⟨rfl, hcontext unnamed fun name a ha => ?_, plan, rfl, hreadable (by decide),
    hattribute plan (hreadable (by decide))⟩
  obtain ⟨-, rfl⟩ := by simpa [unnamed, attribute?] using ha
  exact hreadable (by decide)

end Context

end FeatureFlags
