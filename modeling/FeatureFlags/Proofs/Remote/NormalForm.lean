import FeatureFlags.Proofs.Remote.Bodies

/-!
# One text for each document

A reader of remote evaluation takes many texts for one and the same document: records as objects or
as arrays, fields that are null or left out, members that it does not know, codes in two forms, and
every name of a code or a reason. Writing gives one text of them, which is read as the same document
again (`documents_normal_form`). The documents that a reader gives are those that are not too deep
and whose reason has one form only; each of these is restored from its text.
-/
namespace FeatureFlags

namespace Reason

/-- A name that is carried as it is, is the name of no known reason. -/
def IsPlain (r : Reason) : Prop :=
  ∀ name, r = .other name → ∀ known : Reason, (∀ free, known ≠ .other free) → known.name ≠ name

theorem canonical_ofName (name : String) : (ofName name).canonical = ofName name := by
  rw [← ofName_name, name_ofName]

theorem isPlain_ofName (name : String) : (ofName name).IsPlain := by
  intro free hfree known hknown hname
  have hcanonical : known.canonical = known := by
    cases known with
    | other n => exact absurd rfl (hknown n)
    | _ => rfl
  have hother : known = .other free := by
    rw [← hcanonical, ← ofName_name, hname, ← hfree, ← canonical_ofName name, hfree]
    rfl
  exact hknown free hother

theorem canonical_of_isPlain {r : Reason} (h : r.IsPlain) : r.canonical = r := by
  cases r with
  | other name =>
    have hname : (ofName name).name = name := name_ofName name
    show ofName name = .other name
    by_cases hfree : ∃ free, ofName name = .other free
    · obtain ⟨free, hfree⟩ := hfree
      rw [hfree] at hname ⊢
      exact congrArg other hname
    · exact absurd hname (h name rfl _ fun free hother => hfree ⟨free, hother⟩)
  | _ => rfl

end Reason

namespace Document

/-- The values of a record have one level less than the record. -/
theorem room_of_fields? {names : List String} {room inner : Nat} {d : Document} {found : Fields}
    (h : d.fields? names room = some (inner, found)) : room = inner + 1 := by
  unfold fields? at h
  split at h
  · obtain ⟨_, -, h⟩ := Option.bind_eq_some_iff.1 h
    obtain ⟨_, -, h⟩ := Option.bind_eq_some_iff.1 h
    cases h
    rfl
  · split at h
    · cases h
      rfl
    · cases h
  · cases h

theorem Fields.read_of_optional {α : Type} {f : Fields} {i : Nat} {read : Document → Option α}
    {a : α} (h : f.optional i read = some (some a)) : ∃ d, read d = some a := by
  unfold optional orElse at h
  split at h
  · cases h
  next d _ =>
    cases d with
    | null => cases h
    | bool | number | text | array | object =>
      obtain ⟨_, hread, hsame⟩ := Option.map_eq_some_iff.1 h
      obtain rfl := Option.some.inj hsame
      exact ⟨_, hread⟩

end Document

namespace Remote

/-- What is written for a document stays what it is when it is read and written again. The documents
that come from a text are whole, and every whole document comes from its own text. -/
structure HasNormalForm {α : Type} (render : α → String) (read : Document → Option α)
    (Whole : α → Prop) : Prop where
  stable : ∀ bytes a, Document.ofBytes? bytes >>= read = some a →
    Document.ofBytes? (render a).toUTF8 >>= read = some a
  settled : ∀ bytes text, (Document.ofBytes? bytes >>= read).map render = some text →
    (Document.ofBytes? text.toUTF8 >>= read).map render = some text
  restored : ∀ a, Whole a → Document.ofBytes? (render a).toUTF8 >>= read = some a

theorem HasNormalForm.of_whole {α : Type} {render : α → String} {read : Document → Option α}
    {Whole : α → Prop} (hwhole : ∀ d a, read d = some a → Whole a)
    (hrestored : ∀ a, Whole a → Document.ofBytes? (render a).toUTF8 >>= read = some a) :
    HasNormalForm render read Whole := by
  have hstable (bytes : ByteArray) (a : α) (h : Document.ofBytes? bytes >>= read = some a) :
      Document.ofBytes? (render a).toUTF8 >>= read = some a := by
    obtain ⟨d, -, hread⟩ := Option.bind_eq_some_iff.1 h
    exact hrestored a (hwhole d a hread)
  refine ⟨hstable, fun bytes text h => ?_, hrestored⟩
  obtain ⟨a, hread, rfl⟩ := Option.map_eq_some_iff.1 h
  rw [hstable bytes a hread, Option.map_some]

namespace EvaluationRequest

/-- The context is not too deep. -/
def Whole (r : EvaluationRequest) : Prop := (Json.ofTable r.context).Fits bodyRoom

theorem whole_of_ofDocument? {d : Document} {r : EvaluationRequest} (h : ofDocument? d = some r) :
    r.Whole := by
  obtain ⟨⟨room, found⟩, hfields, h⟩ := Option.bind_eq_some_iff.1 h
  obtain ⟨context, hcontext, h⟩ := Option.bind_eq_some_iff.1 h
  obtain rfl := Option.some.inj h
  have hroom : bodyRoom = room := Nat.succ.inj (Document.room_of_fields? hfields)
  subst hroom
  unfold Document.Fields.orElse at hcontext
  split at hcontext
  · obtain rfl := Option.some.inj hcontext
    exact Json.fits_object List.Pairwise.nil fun _ hm => absurd hm List.not_mem_nil
  · exact Json.fits_of_tableOfDocument? hcontext

end EvaluationRequest

namespace EvaluationSuccess

/-- The values are not too deep and list the members of objects in order, as every table does, and
the reason has no second form. -/
structure Whole (a : EvaluationSuccess) : Prop where
  value : a.value.Fits bodyRoom
  reason : a.reason.IsPlain
  metadata : ∀ m, a.metadata = some m → (Json.ofTable m).Fits bodyRoom

theorem whole_of_ofDocument? {d : Document} {a : EvaluationSuccess} (h : ofDocument? d = some a) :
    a.Whole := by
  obtain ⟨⟨room, found⟩, hfields, h⟩ := Option.bind_eq_some_iff.1 h
  obtain ⟨key, -, h⟩ := Option.bind_eq_some_iff.1 h
  obtain ⟨value, hvalue, h⟩ := Option.bind_eq_some_iff.1 h
  obtain ⟨reason, -, h⟩ := Option.bind_eq_some_iff.1 h
  obtain ⟨variant, -, h⟩ := Option.bind_eq_some_iff.1 h
  obtain ⟨metadata, hmetadata, h⟩ := Option.bind_eq_some_iff.1 h
  obtain rfl := Option.some.inj h
  have hroom : bodyRoom = room := Nat.succ.inj (Document.room_of_fields? hfields)
  subst hroom
  obtain ⟨_, -, hvalue⟩ := Option.bind_eq_some_iff.1 hvalue
  refine ⟨Json.fits_of_ofDocument? hvalue, Reason.isPlain_ofName reason, fun m hm => ?_⟩
  obtain ⟨_, htable⟩ := Document.Fields.read_of_optional (hmetadata.trans (congrArg some hm))
  exact Json.fits_of_tableOfDocument? htable

theorem ofBytes?_render_of_whole {a : EvaluationSuccess} (h : a.Whole) :
    Document.ofBytes? a.render.toUTF8 >>= ofDocument? = some a := by
  rw [ofBytes?_render h.value h.metadata, Reason.canonical_of_isPlain h.reason]

end EvaluationSuccess

/-- The text of a request, of an answer and of a failure does not change any more when it is read
and written again, and gives the document back. -/
theorem documents_normal_form :
    HasNormalForm EvaluationRequest.render EvaluationRequest.ofDocument? EvaluationRequest.Whole ∧
    HasNormalForm EvaluationSuccess.render EvaluationSuccess.ofDocument? EvaluationSuccess.Whole ∧
    HasNormalForm EvaluationFailure.render EvaluationFailure.ofDocument? fun _ => True :=
  ⟨.of_whole (fun _ _ => EvaluationRequest.whole_of_ofDocument?)
      fun _ => EvaluationRequest.ofBytes?_render,
    .of_whole (fun _ _ => EvaluationSuccess.whole_of_ofDocument?)
      fun _ => EvaluationSuccess.ofBytes?_render_of_whole,
    .of_whole (fun _ _ _ => trivial) fun f _ => f.ofBytes?_render⟩

/-- An answer as an array, with the members of its value out of order. -/
def listed : Json :=
  .array [.text "dark-mode", .object [("z", .null), ("a", .bool true)], .text "MINE", .null, .null]

/-- A failure with a code that is not known, in its other form, and a member that is not known. -/
def coded : Json :=
  .object [("extra", .array []), ("errorCode", .object [("NOPE", .null)]), ("key", .null)]

theorem documents_normal_form_listed :
    let answer : EvaluationSuccess :=
      ⟨"dark-mode", .object [("a", .bool true), ("z", .null)], .other "MINE", none, none⟩
    let failure : EvaluationFailure := ⟨none, .general, none⟩
    (Document.ofBytes? listed.render.toUTF8 >>= EvaluationSuccess.ofDocument? = some answer ∧
      answer.render ≠ listed.render ∧
      Document.ofBytes? answer.render.toUTF8 >>= EvaluationSuccess.ofDocument? = some answer) ∧
    (Document.ofBytes? coded.render.toUTF8 >>= EvaluationFailure.ofDocument? = some failure ∧
      failure.render ≠ coded.render ∧
      Document.ofBytes? failure.render.toUTF8 >>= EvaluationFailure.ofDocument? = some failure) ∧
    Document.ofBytes? (EvaluationRequest.mk .empty).render.toUTF8 >>=
      EvaluationRequest.ofDocument? = some ⟨.empty⟩ := by
  intro answer failure
  obtain ⟨requests, answers, failures⟩ := documents_normal_form
  have hanswer : Document.ofBytes? listed.render.toUTF8 >>= EvaluationSuccess.ofDocument? =
      some answer := by
    rw [Document.ofBytes?_render]
    rfl
  have hfailure : Document.ofBytes? coded.render.toUTF8 >>= EvaluationFailure.ofDocument? =
      some failure := by
    rw [Document.ofBytes?_render]
    rfl
  have hempty : EvaluationRequest.Whole ⟨.empty⟩ :=
    EvaluationRequest.whole_of_ofDocument? (d := .array []) rfl
  exact ⟨⟨hanswer, by decide, answers.stable _ _ hanswer⟩,
    ⟨hfailure, by decide, failures.stable _ _ hfailure⟩, requests.restored _ hempty⟩

end Remote

end FeatureFlags
