import FeatureFlags.Proofs.Context.Carried
import FeatureFlags.Proofs.Json.Records
import FeatureFlags.Remote.Handler

/-!
# Bodies as they are read

Each body that one side of remote evaluation writes is read by the other side as what was written:
the context of a request (`readContext_render`), an answer (`success_render`) and a failure
(`failure?_render`). Values may nest one level less than readers allow, for the body is a level of
its own.
-/
namespace FeatureFlags

/-- A reason without a second form: a name that is known means the known reason. -/
def Reason.canonical : Reason → Reason
  | .other name => ofName name
  | known => known

theorem Reason.ofName_name (r : Reason) : ofName r.name = r.canonical := by cases r <;> rfl

theorem Reason.name_ofName (name : String) : (ofName name).name = name := by
  unfold ofName
  split <;> rfl

namespace Remote

open Document (Fields)

/-- Levels for the values in a body. -/
def bodyRoom : Nat := Document.maxDepth - 1

/-- The bytes of a record are read as its object. -/
theorem ofBytes?_fields {α : Type} (fields : List (String × Option Json))
    (read : Document → Option α) :
    Document.ofBytes? (Json.ofFields fields).render.toUTF8 >>= read =
      read (Document.ofJson (Json.ofFields fields)) := by
  rw [Document.ofBytes?_render]
  rfl

/-- A text that was left out if there was none is read as it was. -/
theorem optionalText {found : Fields} {i : Nat} {x : Option String}
    (h : found.get i = (x.map Json.text).map Document.ofJson) :
    found.optional i Document.toText? = some x :=
  Fields.optional_of_written (h.trans (Option.map_map _ _ _)) fun _ _ => ⟨nofun, rfl⟩

/-! ## Requests -/

namespace EvaluationRequest

def fields (r : EvaluationRequest) : List (String × Option Json) :=
  [("context", some (Json.ofTable r.context))]

theorem render_eq (r : EvaluationRequest) : r.render = (Json.ofFields r.fields).render :=
  (Json.render_ofFields r.fields).symm

theorem ofBytes?_render {r : EvaluationRequest} (h : (Json.ofTable r.context).Fits bodyRoom) :
    Document.ofBytes? r.render.toUTF8 >>= ofDocument? = some r := by
  have hfields : (Document.ofJson (Json.ofFields r.fields)).fields? ["context"] Document.maxDepth =
      some (bodyRoom, ⟨false, [some (Document.ofJson (Json.ofTable r.context))]⟩) :=
    Document.fields?_ofFields ["context"] (by decide) rfl bodyRoom
  rw [render_eq, ofBytes?_fields, ofDocument?, hfields]
  simp [Fields.orElse, Fields.get, h.readTable]

end EvaluationRequest

/-! ## Answers -/

namespace EvaluationSuccess

def fields (a : EvaluationSuccess) : List (String × Option Json) :=
  [("key", some (.text a.key)),
   ("value", some a.value),
   ("reason", some (.text a.reason.name)),
   ("variant", a.variant.map .text),
   ("metadata", a.metadata.map Json.ofTable)]

theorem render_eq (a : EvaluationSuccess) : a.render = (Json.ofFields a.fields).render := by
  rw [Json.render_ofFields, render, fields]
  simp only [List.map_cons, List.map_nil, Option.map_some, Option.map_map]
  rfl

/-- What a reader makes of an answer: its values have their members in order, and its reason is one
without a second form. -/
def received (a : EvaluationSuccess) : EvaluationSuccess :=
  { a with
    value := a.value.sorted
    reason := a.reason.canonical
    metadata := a.metadata.map fun m => m.map Json.sorted }

theorem ofBytes?_render_received {a : EvaluationSuccess} (hvalue : a.value.depth ≤ bodyRoom)
    (hmetadata : ∀ m, a.metadata = some m → (Json.ofTable m).depth ≤ bodyRoom) :
    Document.ofBytes? a.render.toUTF8 >>= ofDocument? = some a.received := by
  let names := ["key", "value", "reason", "variant", "metadata"]
  let found : Fields := ⟨false, a.fields.map fun f => f.2.map Document.ofJson⟩
  have hfields : (Document.ofJson (Json.ofFields a.fields)).fields? names Document.maxDepth =
      some (bodyRoom, found) := Document.fields?_ofFields names (by decide) rfl bodyRoom
  have hkey : found.required 0 Document.toText? = some a.key := rfl
  have hread : found.required 1 (Json.ofDocument? bodyRoom) = some a.value.sorted :=
    Json.ofDocument?_ofJson hvalue
  have hreason : found.required 2 Document.toText? = some a.reason.name := rfl
  have hvariant : found.optional 3 Document.toText? = some a.variant := optionalText rfl
  have htable : found.optional 4 (Json.tableOfDocument? bodyRoom) = some a.received.metadata :=
    Fields.optional_of_read (Option.map_map _ _ _) fun m hm =>
      ⟨nofun, Json.tableOfDocument?_ofTable (hmetadata m hm)⟩
  rw [render_eq, ofBytes?_fields, ofDocument?, hfields]
  simp [hkey, hread, hreason, hvariant, htable, Reason.ofName_name, received]

theorem ofBytes?_render {a : EvaluationSuccess} (hvalue : a.value.Fits bodyRoom)
    (hmetadata : ∀ m, a.metadata = some m → (Json.ofTable m).Fits bodyRoom) :
    Document.ofBytes? a.render.toUTF8 >>= ofDocument? =
      some { a with reason := a.reason.canonical } := by
  have hsorted : a.value.sorted = a.value := Json.sorted_of_ordered hvalue.ordered
  have htables : (a.metadata.map fun m => m.map Json.sorted) = a.metadata := by
    cases hm : a.metadata with
    | none => rfl
    | some m => exact congrArg some (hmetadata m hm).map_sorted
  rw [ofBytes?_render_received hvalue.depth_le fun m hm => (hmetadata m hm).depth_le, received,
    hsorted, htables]

end EvaluationSuccess

/-! ## Failures -/

namespace EvaluationFailure

def fields (f : EvaluationFailure) : List (String × Option Json) :=
  [("key", f.key.map .text),
   ("errorCode", some (.text f.code.name)),
   ("errorDetails", f.details.map .text)]

theorem render_eq (f : EvaluationFailure) : f.render = (Json.ofFields f.fields).render := by
  rw [Json.render_ofFields, render, fields]
  simp only [List.map_cons, List.map_nil, Option.map_some, Option.map_map]
  rfl

theorem ofBytes?_render (f : EvaluationFailure) :
    Document.ofBytes? f.render.toUTF8 >>= ofDocument? = some f := by
  let names := ["key", "errorCode", "errorDetails"]
  let found : Fields := ⟨false, f.fields.map fun f => f.2.map Document.ofJson⟩
  have hfields : (Document.ofJson (Json.ofFields f.fields)).fields? names Document.maxDepth =
      some (bodyRoom, found) := Document.fields?_ofFields names (by decide) rfl bodyRoom
  have hkey : found.optional 0 Document.toText? = some f.key := optionalText rfl
  have hcode : found.required 1 ErrorCode.ofDocument? = some f.code :=
    congrArg some (ErrorCode.ofName_name f.code)
  have hdetails : found.optional 2 Document.toText? = some f.details := optionalText rfl
  rw [render_eq, ofBytes?_fields, ofDocument?, hfields]
  simp [hkey, hcode, hdetails]

end EvaluationFailure

/-! ## Both sides -/

theorem Handler.not_blank {s : String} {rest : List Char} (h : s.toList = '{' :: rest) :
    s.toUTF8.data.all isBlankByte = false := by
  have hbrace : ['{'].utf8Encode.data.all isBlankByte = false := by
    rw [List.utf8Encode_singleton, List.data_toByteArray, List.all_toArray]
    rfl
  have hbytes : s.toUTF8 = ['{'].utf8Encode ++ rest.utf8Encode := by
    rw [String.toUTF8_eq_toByteArray, ← String.utf8Encode_toList, h, ← List.utf8Encode_append]
    rfl
  rw [hbytes, ByteArray.data_append, Array.all_append, hbrace, Bool.false_and]

/-- A handler reads the context that a service was given, as far as it can be written. -/
theorem Handler.readContext_render {c : Context}
    (hkey : c.attribute? Context.targetingKeyName = none)
    (hfits : (Json.ofTable c.flatten).Fits bodyRoom) :
    readContext (EvaluationRequest.mk c.flatten).render.toUTF8 = .ok c.carried := by
  let request : EvaluationRequest := ⟨c.flatten⟩
  have hbrace : request.render.toList = '{' :: _ := String.toList_ofList
  have hread : Document.ofBytes? request.render.toUTF8 >>= EvaluationRequest.ofDocument? =
      some request := EvaluationRequest.ofBytes?_render hfits
  rw [readContext, not_blank hbrace, hread]
  dsimp only [request]
  rw [Context.ofFlat_flatten hkey]
  rfl

end Remote

end FeatureFlags
