import FeatureFlags.Proofs.Remote.Bodies
import Mathlib.Data.List.TakeWhile

/-!
# The checks of a handler

What a request asks for, said without the handler: the key that its path names, and the context that
its body gives. For each check there is one law of what the handler does with the requests that stop
there (`handle_refused`, `handle_missed`, `handle_keyless`, `handle_malformed`), and one for those
that pass all of them (`handle_passed`). These get what `respond` makes of an evaluation, which is a
document with one of three statuses (`respond_eq_json`).
-/
namespace FeatureFlags

namespace Remote

/-! ## What a request asks for -/

namespace HandlerOptions

/-- The method check stops a request. -/
def Refuses (o : HandlerOptions) (r : HttpRequest) : Prop :=
  o.checkMethod = true ∧ r.method ≠ "POST"

/-- The path check stops a request. -/
def Misses (o : HandlerOptions) (r : HttpRequest) : Prop :=
  o.checkPath = true ∧ ¬o.pathLead.toList <+: r.path

/-- A request is served for a key, which may be empty: the key follows the lead of the path, or is
its last segment where no lead is needed. -/
def Serves (o : HandlerOptions) (r : HttpRequest) (key : List Char) : Prop :=
  r.path = o.pathLead.toList ++ key ∨
    o.checkPath = false ∧ ¬o.pathLead.toList <+: r.path ∧
      '/' ∉ key ∧ (r.path = key ∨ ∃ front, r.path = front ++ '/' :: key)

end HandlerOptions

namespace Handler

/-- Space, tab, line feed, form feed and carriage return. -/
def Blank (body : ByteArray) : Prop := ∀ b ∈ body.data, b ∈ ([32, 9, 10, 12, 13] : List UInt8)

/-- A body is a request whose context can be read. -/
def Carries (body : ByteArray) (c : Context) : Prop :=
  ∃ request, Document.ofBytes? body >>= EvaluationRequest.ofDocument? = some request ∧
    Context.ofFlat request.context = .ok c

/-- A blank body stands for the empty context. -/
def Gives (body : ByteArray) (c : Context) : Prop :=
  Blank body ∧ c = .empty ∨ ¬Blank body ∧ Carries body c

def Malformed (body : ByteArray) : Prop := ¬Blank body ∧ ¬∃ c, Carries body c

theorem blank_iff (body : ByteArray) : body.data.all isBlankByte = true ↔ Blank body := by
  rw [Array.all_eq_true_iff_forall_mem]
  refine forall₂_congr fun b _ => ?_
  simp [isBlankByte, or_assoc]

theorem readContext_eq_ok_iff {body : ByteArray} {c : Context} :
    readContext body = .ok c ↔ Gives body c := by
  rw [readContext]
  split
  next hblank =>
    have hblank := (blank_iff body).1 hblank
    simp [Gives, hblank, eq_comm]
  next hblank =>
    have hblank := mt (blank_iff body).2 hblank
    split
    next hnone => simp [Gives, Carries, hblank, hnone]
    next request hsome =>
      cases hc : Context.ofFlat request.context with
      | error e => simp [Gives, Carries, hblank, hsome, hc, Except.mapError]
      | ok found => simp [Gives, Carries, hblank, hsome, hc, Except.mapError]

theorem malformed_iff {body : ByteArray} : Malformed body ↔ ∀ c, ¬Gives body c := by
  by_cases hblank : Blank body
  · simp [Malformed, Gives, hblank]
  · simp [Malformed, Gives, hblank]

theorem exists_error_of_malformed {body : ByteArray} (h : Malformed body) :
    ∃ details, readContext body = .error details := by
  cases hread : readContext body with
  | error details => exact ⟨details, rfl⟩
  | ok c => exact absurd (readContext_eq_ok_iff.1 hread) (malformed_iff.1 h c)

/-! ## The key of a path -/

/-- A segment is the last one of a path if nothing but a slash can stand in front of it. -/
theorem lastSegment_eq_iff {path key : List Char} : lastSegment path = key ↔
    '/' ∉ key ∧ (path = key ∨ ∃ front, path = front ++ '/' :: key) := by
  constructor
  · rintro rfl
    let open? (c : Char) : Bool := c ≠ '/'
    have hsplit : path = (path.reverse.dropWhile open?).reverse ++ lastSegment path := by
      rw [lastSegment, ← List.reverse_append, List.takeWhile_append_dropWhile, List.reverse_reverse]
    refine ⟨fun hmem => ?_, ?_⟩
    · have hopen := List.mem_takeWhile_imp (List.mem_reverse.1 hmem)
      exact absurd rfl (of_decide_eq_true hopen)
    · -- what stands in front of the segment is nothing, or it ends with a slash
      have hhead := List.head?_dropWhile_not open? path.reverse
      cases hdrop : path.reverse.dropWhile open? with
      | nil =>
        rw [hdrop] at hsplit
        exact .inl hsplit
      | cons c rest =>
        rw [hdrop] at hsplit hhead
        have hslash : c = '/' := Decidable.byContradiction fun hne => by simp [open?, hne] at hhead
        subst hslash
        exact .inr ⟨rest.reverse, by simpa using hsplit⟩
  · rintro ⟨hopen, hpath⟩
    have hkept : ∀ c ∈ key.reverse, (c ≠ '/' : Bool) = true := fun c hc =>
      decide_eq_true fun heq => hopen (heq ▸ List.mem_reverse.1 hc)
    rcases hpath with rfl | ⟨front, rfl⟩
    · rw [lastSegment, List.takeWhile_eq_self_iff.2 hkept, List.reverse_reverse]
    · rw [lastSegment, List.reverse_append, List.reverse_cons, List.append_assoc,
        List.takeWhile_append_of_pos hkept]
      simp

theorem flagKey?_of_lead {o : HandlerOptions} {path key : List Char}
    (hpath : path = o.pathLead.toList ++ key) : flagKey? o path = some key := by
  have hprefix : o.pathLead.toList.isPrefixOf path = true := by
    rw [hpath]
    exact List.isPrefixOf_iff_prefix.2 (List.prefix_append _ _)
  rw [flagKey?, if_pos hprefix, hpath, List.drop_left]

theorem flagKey?_eq_some_iff {o : HandlerOptions} {r : HttpRequest} {key : List Char} :
    flagKey? o r.path = some key ↔ o.Serves r key := by
  by_cases hlead : o.pathLead.toList <+: r.path
  · obtain ⟨rest, hrest⟩ := hlead
    rw [flagKey?_of_lead hrest.symm, HandlerOptions.Serves, ← hrest, List.append_cancel_left_eq]
    simp
  · have hother : r.path ≠ o.pathLead.toList ++ key := fun h => hlead ⟨key, h.symm⟩
    rw [flagKey?, if_neg (mt List.isPrefixOf_iff_prefix.1 hlead), HandlerOptions.Serves,
      ← lastSegment_eq_iff]
    cases o.checkPath <;> simp [hlead, hother]

theorem flagKey?_eq_none_iff {o : HandlerOptions} {r : HttpRequest} :
    flagKey? o r.path = none ↔ o.Misses r := by
  rw [flagKey?, HandlerOptions.Misses]
  by_cases hlead : o.pathLead.toList <+: r.path
  · simp [hlead]
  · cases o.checkPath <;> simp [hlead]

/-! ## The course of a request -/

/-- How far a request comes: to one of the checks, or behind them all. -/
inductive Stage (o : HandlerOptions) (r : HttpRequest) : Prop where
  | refused (h : o.Refuses r)
  | missed (hpost : ¬o.Refuses r) (h : o.Misses r)
  | keyless (hpost : ¬o.Refuses r) (h : o.Serves r [])
  | malformed (key : List Char) (hpost : ¬o.Refuses r) (hkey : o.Serves r key) (hne : key ≠ [])
    (h : Malformed r.body)
  | passed (key : List Char) (c : Context) (hpost : ¬o.Refuses r) (hkey : o.Serves r key)
    (hne : key ≠ []) (h : Gives r.body c)

theorem stage (o : HandlerOptions) (r : HttpRequest) : Stage o r := by
  by_cases hpost : o.Refuses r
  · exact .refused hpost
  cases hfound : flagKey? o r.path with
  | none => exact .missed hpost (flagKey?_eq_none_iff.1 hfound)
  | some key =>
    have hkey := flagKey?_eq_some_iff.1 hfound
    by_cases hne : key = []
    · subst hne
      exact .keyless hpost hkey
    by_cases hbody : Malformed r.body
    · exact .malformed key hpost hkey hne hbody
    · obtain ⟨c, hc⟩ := not_forall_not.1 (mt malformed_iff.2 hbody)
      exact .passed key c hpost hkey hne hc

/-- The client of a handler is asked for a flag, and the answer is sent back. -/
def asking (h : Handler) (flag : String) (c : Context) : Eval HttpResponse :=
  h.client.details .object flag .null (some c) {} >>= fun e => return respond flag e

variable {h : Handler} {r : HttpRequest} {key : List Char}

theorem method_passes {o : HandlerOptions} (hpost : ¬o.Refuses r) :
    (o.checkMethod && decide (r.method ≠ "POST")) = false := by
  rw [Bool.eq_false_iff]
  intro hstopped
  obtain ⟨hcheck, hother⟩ := Bool.and_eq_true_iff.1 hstopped
  exact hpost ⟨hcheck, of_decide_eq_true hother⟩

theorem handle_refused (hrefused : h.options.Refuses r) :
    h.handle r = pure (bare 405 [("allow", "POST")]) := by
  obtain ⟨hcheck, hother⟩ := hrefused
  rw [handle]
  simp only [hcheck, ne_eq, hother, not_false_eq_true, decide_true, Bool.and_self, if_true]

theorem handle_missed (hpost : ¬h.options.Refuses r) (hpath : h.options.Misses r) :
    h.handle r = pure (bare 404 []) := by
  rw [handle]
  simp only [method_passes hpost, flagKey?_eq_none_iff.2 hpath]
  rfl

theorem handle_keyless (hpost : ¬h.options.Refuses r) (hkey : h.options.Serves r []) :
    h.handle r = pure (failure 404 none .flagNotFound "flag key is missing") := by
  rw [handle]
  simp only [method_passes hpost, flagKey?_eq_some_iff.2 hkey]
  rfl

theorem handle_malformed (hpost : ¬h.options.Refuses r) (hkey : h.options.Serves r key)
    (hne : key ≠ []) {details : String} (hbody : readContext r.body = .error details) :
    h.handle r = do
      Eval.report .debug ("rejecting malformed OFREP request: " ++ details)
        [("flag_key", .text (String.ofList key))]
      return failure 400 (some (String.ofList key)) .parseError details := by
  obtain ⟨first, rest, rfl⟩ := List.exists_cons_of_ne_nil hne
  rw [handle]
  simp only [method_passes hpost, flagKey?_eq_some_iff.2 hkey, hbody]
  rfl

theorem handle_passed (hpost : ¬h.options.Refuses r) (hkey : h.options.Serves r key)
    (hne : key ≠ []) {c : Context} (hbody : Gives r.body c) :
    h.handle r = h.asking (String.ofList key) c := by
  obtain ⟨first, rest, rfl⟩ := List.exists_cons_of_ne_nil hne
  rw [handle]
  simp only [method_passes hpost, flagKey?_eq_some_iff.2 hkey, readContext_eq_ok_iff.2 hbody]
  rfl

/-! ## The response for an evaluation -/

/-- The statuses of failures, each with the code that belongs to it. -/
def failureCodes : List (Nat × ErrorCode) :=
  [(400, .parseError), (404, .flagNotFound), (500, .general)]

/-- What is sent back for an evaluation without an error. -/
def answer (e : Evaluation Json) : EvaluationSuccess where
  key := e.flag
  value := e.value
  reason := e.reason.getD .unknown
  variant := e.variant
  metadata := if e.metadata.isEmpty then none else some e.metadata

variable {e : Evaluation Json}

theorem metadata_of_answer {m : Metadata} (h : (answer e).metadata = some m) : e.metadata = m := by
  unfold answer at h
  dsimp only at h
  split at h
  · cases h
  · exact Option.some.inj h

theorem respond_of_success (h : e.error = none) (flag : String) :
    respond flag e = json 200 (answer e).render := by
  rw [respond, h]
  rfl

theorem respond_of_error {error : EvaluationError} (h : e.error = some error) (flag : String) :
    ∃ status code, status ≠ 400 ∧ (status, code) ∈ failureCodes ∧
      respond flag e = failure status (some flag) code error.details := by
  rw [respond, h]
  obtain ⟨code, message⟩ := error
  cases code with
  | flagNotFound | invalidContext | targetingKeyMissing =>
    exact ⟨404, .flagNotFound, by decide, by simp [failureCodes], rfl⟩
  | providerNotReady | providerFatal | parseError | typeMismatch | general =>
    exact ⟨500, .general, by decide, by simp [failureCodes], rfl⟩

/-- Whatever the client answers, its response is a document, with a status that no check gives. -/
theorem respond_eq_json (flag : String) (e : Evaluation Json) :
    ∃ status text, status ∈ [200, 404, 500] ∧ respond flag e = json status text := by
  cases he : e.error with
  | none => exact ⟨200, _, by decide, respond_of_success he flag⟩
  | some error =>
    obtain ⟨status, code, hbody, hcode, hrespond⟩ := respond_of_error he flag
    refine ⟨status, _, ?_, hrespond⟩
    simp only [failureCodes, List.mem_cons, Prod.mk.injEq, List.not_mem_nil, or_false] at hcode
    simp only [List.mem_cons, List.not_mem_nil, or_false]
    omega

end Handler

end Remote

end FeatureFlags
