import FeatureFlags.Proofs.Client
import FeatureFlags.Proofs.Remote.Key

/-!
# What a handler owes to a request

A request that stops at a check is answered without the client, and one that passes all checks with
a single evaluation. From the response alone one can tell which of them it was, and whoever gets it
can read it as what its status says (`handle_contract`).
-/
namespace FeatureFlags

/-- A reader can follow the value and the metadata down to their last level. -/
def Evaluation.Readable (e : Evaluation Json) : Prop :=
  e.value.depth ≤ Remote.bodyRoom ∧ (Json.ofTable e.metadata).depth ≤ Remote.bodyRoom

namespace Remote

/-! ## With and without the client -/

namespace Handler

/-- A handler answers a request without its client: whichever client that is, the response is the
same, and nothing but the log changes. -/
def Answers (o : HandlerOptions) (r : HttpRequest) (response : HttpResponse) : Prop :=
  ∃ records, ∀ client s, ((Handler.mk client o).handle r).on s =
    (.ok response, { s with log := s.log ++ records })

/-- A handler asks its client once, for one flag, and sends back what it makes of the answer. -/
def Asks (o : HandlerOptions) (r : HttpRequest) (flag : String) (c : Context) : Prop :=
  ∀ client, (Handler.mk client o).handle r = (Handler.mk client o).asking flag c

section Answers

variable {o : HandlerOptions} {r : HttpRequest} {key : List Char} {response : HttpResponse}

theorem Answers.of_pure (h : ∀ client, (Handler.mk client o).handle r = pure response) :
    Answers o r response := by
  refine ⟨[], fun client s => ?_⟩
  rw [h client, List.append_nil]
  rfl

theorem answers_refused (h : o.Refuses r) : Answers o r (bare 405 [("allow", "POST")]) :=
  .of_pure fun _ => handle_refused h

theorem answers_missed (hpost : ¬o.Refuses r) (h : o.Misses r) : Answers o r (bare 404 []) :=
  .of_pure fun _ => handle_missed hpost h

theorem answers_keyless (hpost : ¬o.Refuses r) (hkey : o.Serves r []) :
    Answers o r (failure 404 none .flagNotFound "flag key is missing") :=
  .of_pure fun _ => handle_keyless hpost hkey

theorem answers_malformed (hpost : ¬o.Refuses r) (hkey : o.Serves r key) (hne : key ≠ [])
    (hbody : Malformed r.body) : ∃ details,
      Answers o r (failure 400 (some (String.ofList key)) .parseError details) := by
  obtain ⟨details, hread⟩ := exists_error_of_malformed hbody
  refine ⟨details, [⟨.debug, "rejecting malformed OFREP request: " ++ details,
    [("flag_key", .text (String.ofList key))]⟩], fun client s => ?_⟩
  rw [handle_malformed hpost hkey hne hread]
  rfl

theorem asks_of_gives (hpost : ¬o.Refuses r) (hkey : o.Serves r key) (hne : key ≠ []) {c : Context}
    (hbody : Gives r.body c) : Asks o r (String.ofList key) c :=
  fun _ => handle_passed hpost hkey hne hbody

end Answers

end Handler

/-! ## Responses -/

namespace HttpResponse

/-- The body of a response is the text of a document. -/
def Holds {α : Type} (response : HttpResponse) (read : Document → Option α) (a : α) : Prop :=
  Document.ofBytes? response.body.toUTF8 >>= read = some a

/-- A failure, with the code that belongs to the status. -/
def Fails (response : HttpResponse) : Prop :=
  ∃ f, response.Holds EvaluationFailure.ofDocument? f ∧
    (response.status, f.code) ∈ Handler.failureCodes

/-- A success for a flag, as far as a reader can follow the evaluation. -/
def Succeeds (response : HttpResponse) (flag : String) (e : Evaluation Json) : Prop :=
  response.status = 200 ∧ e.error = none ∧
    (e.Readable → ∃ a, response.Holds EvaluationSuccess.ofDocument? a ∧ a.key = flag)

end HttpResponse

namespace Handler

theorem failure_fails {status : Nat} {code : ErrorCode} (h : (status, code) ∈ failureCodes)
    (key : Option String) (details : String) : (failure status key code details).Fails :=
  ⟨⟨key, code, some details⟩, EvaluationFailure.ofBytes?_render _, h⟩

theorem respond_succeeds {e : Evaluation Json} (h : e.error = none) (flag : String) :
    (respond flag e).Succeeds e.flag e := by
  rw [respond_of_success h]
  refine ⟨rfl, h, fun hreadable => ⟨(answer e).received, ?_, rfl⟩⟩
  refine EvaluationSuccess.ofBytes?_render_received hreadable.1 fun m hm => ?_
  exact metadata_of_answer hm ▸ hreadable.2

theorem status_respond_iff (flag : String) (e : Evaluation Json) :
    (respond flag e).status = 200 ↔ e.error = none := by
  cases he : e.error with
  | none =>
    rw [respond_of_success he]
    exact ⟨fun _ => rfl, fun _ => rfl⟩
  | some error =>
    obtain ⟨status, code, -, hcode, hrespond⟩ := respond_of_error he flag
    rw [hrespond]
    refine ⟨fun hstatus => ?_, nofun⟩
    obtain rfl : status = 200 := hstatus
    simp [failureCodes] at hcode

/-! ## The contract -/

/-- A handler sends a response when it handles a request in a store. -/
def Sends (h : Handler) (r : HttpRequest) (s : Store) (response : HttpResponse) : Prop :=
  ((h.handle r).on s).1 = .ok response

/-- What the client of a handler answers in a store, unless the evaluation is broken off. -/
def evaluation (h : Handler) (s : Store) (flag : String) (c : Context) :
    Except Crash (Evaluation Json) :=
  ((h.client.details .object flag .null (some c) {}).on s).1

/-- What a handler owes to a request, whatever its client does. -/
structure Contract (h : Handler) (r : HttpRequest) (s : Store) : Prop where
  refused : h.Sends r s ⟨405, [("allow", "POST")], ""⟩ ↔ h.options.Refuses r
  missed : h.Sends r s ⟨404, [], ""⟩ ↔ ¬h.options.Refuses r ∧ h.options.Misses r
  documented : ∀ response, h.Sends r s response → ¬h.options.Refuses r → ¬h.options.Misses r →
    response.headers = [("content-type", "application/json")] ∧
      (response.Fails ∨ ∃ key c e, h.options.Serves r key ∧ Gives r.body c ∧
        h.evaluation s (String.ofList key) c = .ok e ∧ response.Succeeds (String.ofList key) e)
  malformed : ∀ key, ¬h.options.Refuses r → h.options.Serves r key → key ≠ [] →
    ((∃ response, h.Sends r s response ∧ response.status = 400) ↔ Malformed r.body)
  /-- No check that stops a request needs the client. -/
  unasked : ∀ response, h.Sends r s response →
    response.status = 405 ∨ response.status = 400 ∨ response = ⟨404, [], ""⟩ ∨
      h.options.Serves r [] → Answers h.options r response
  once : (∃ response, Answers h.options r response) ∨
    ∃ key c, h.options.Serves r key ∧ key ≠ [] ∧ Gives r.body c ∧
      Asks h.options r (String.ofList key) c
  /-- An answer of the client is sent back, with status 200 exactly if it is without an error. -/
  sent : ∀ flag c e, Asks h.options r flag c → h.evaluation s flag c = .ok e →
    ∃ response, h.Sends r s response ∧ (response.status = 200 ↔ e.error = none)

section Contract

variable {h : Handler} {r : HttpRequest} {s : Store} {response : HttpResponse} {flag : String}
  {c : Context}

theorem Answers.sends (ha : Answers h.options r response) : h.Sends r s response := by
  obtain ⟨records, hrun⟩ := ha
  exact congrArg Prod.fst (hrun h.client s)

theorem Answers.eq_of_sends {other : HttpResponse} (ha : Answers h.options r other)
    (hsends : h.Sends r s response) : response = other :=
  Except.ok.inj (hsends.symm.trans ha.sends)

theorem ok_of_map {α β : Type} {x : Except Crash α} {f : α → β} {b : β} (h : x.map f = .ok b) :
    ∃ a, x = .ok a ∧ f a = b := by
  cases x with
  | error e => cases h
  | ok a => exact ⟨a, rfl, Except.ok.inj h⟩

theorem Asks.on_handle (ha : Asks h.options r flag c) :
    ((h.handle r).on s).1 = (h.evaluation s flag c).map (respond flag) := by
  have hasking : h.handle r = h.asking flag c := ha h.client
  rw [hasking, asking, Eval.on_bind_pure]
  rfl

theorem Asks.sends (ha : Asks h.options r flag c) {e : Evaluation Json}
    (heval : h.evaluation s flag c = .ok e) : h.Sends r s (respond flag e) := by
  rw [Sends, ha.on_handle, heval]
  rfl

/-- A response for which the client was asked is made of its answer. -/
theorem Asks.of_sends (ha : Asks h.options r flag c) (hsends : h.Sends r s response) :
    ∃ e, h.evaluation s flag c = .ok e ∧ respond flag e = response :=
  ok_of_map (ha.on_handle.symm.trans hsends)

/-- The answer of a client is for the flag for which it was asked. -/
theorem flag_of_evaluation {e : Evaluation Json} (he : h.evaluation s flag c = .ok e) :
    e.flag = flag := by
  obtain ⟨s₁, hrun, -⟩ := h.client.on_details (t := .object) flag .null (some c) {} s
  rw [evaluation, hrun] at he
  obtain ⟨resolution, -, rfl⟩ := ok_of_map he
  rfl

theorem not_misses_of_serves {o : HandlerOptions} {key : List Char} (hkey : o.Serves r key) :
    ¬o.Misses r := by
  intro hmisses
  rw [← flagKey?_eq_none_iff, flagKey?_eq_some_iff.2 hkey] at hmisses
  cases hmisses

theorem eq_of_serves {o : HandlerOptions} {key other : List Char} (hkey : o.Serves r key)
    (hother : o.Serves r other) : key = other :=
  Option.some.inj ((flagKey?_eq_some_iff.2 hkey).symm.trans (flagKey?_eq_some_iff.2 hother))

theorem documented_of_sends (hsends : h.Sends r s response) (hpost : ¬h.options.Refuses r)
    (hpath : ¬h.options.Misses r) :
    response.headers = [("content-type", "application/json")] ∧
      (response.Fails ∨ ∃ key c e, h.options.Serves r key ∧ Gives r.body c ∧
        h.evaluation s (String.ofList key) c = .ok e ∧
        response.Succeeds (String.ofList key) e) := by
  cases stage h.options r with
  | refused h => exact absurd h hpost
  | missed _ h => exact absurd h hpath
  | keyless _ hkey =>
    obtain rfl := (answers_keyless hpost hkey).eq_of_sends hsends
    exact ⟨rfl, .inl (failure_fails (by simp [failureCodes]) _ _)⟩
  | malformed key _ hkey hne hbody =>
    obtain ⟨details, ha⟩ := answers_malformed hpost hkey hne hbody
    obtain rfl := ha.eq_of_sends hsends
    exact ⟨rfl, .inl (failure_fails (by simp [failureCodes]) _ _)⟩
  | passed key c _ hkey hne hbody =>
    obtain ⟨e, heval, rfl⟩ := (asks_of_gives hpost hkey hne hbody).of_sends hsends
    obtain ⟨_, _, -, hjson⟩ := respond_eq_json (String.ofList key) e
    refine ⟨by rw [hjson]; rfl, ?_⟩
    cases he : e.error with
    | none =>
      have hsuccess := respond_succeeds he (String.ofList key)
      rw [flag_of_evaluation heval] at hsuccess
      exact .inr ⟨key, c, e, hkey, hbody, heval, hsuccess⟩
    | some error =>
      obtain ⟨status, code, -, hcode, hrespond⟩ := respond_of_error he (String.ofList key)
      rw [hrespond]
      exact .inl (failure_fails hcode _ _)

theorem malformed_of_sends {key : List Char} (hsends : h.Sends r s response)
    (hstatus : response.status = 400) (hpost : ¬h.options.Refuses r)
    (hkey : h.options.Serves r key) (hne : key ≠ []) : Malformed r.body := by
  by_contra hbody
  obtain ⟨c, hc⟩ := not_forall_not.1 (mt malformed_iff.2 hbody)
  obtain ⟨e, -, rfl⟩ := (asks_of_gives hpost hkey hne hc).of_sends hsends
  obtain ⟨status, _, hknown, hjson⟩ := respond_eq_json (String.ofList key) e
  rw [hjson] at hstatus
  obtain rfl : status = 400 := hstatus
  exact absurd hknown (by decide)

theorem answers_of_sends (hsends : h.Sends r s response)
    (hstopped : response.status = 405 ∨ response.status = 400 ∨ response = ⟨404, [], ""⟩ ∨
      h.options.Serves r []) : Answers h.options r response := by
  have hanswers {other : HttpResponse} (ha : Answers h.options r other) :
      Answers h.options r response := ha.eq_of_sends hsends ▸ ha
  cases stage h.options r with
  | refused hpost => exact hanswers (answers_refused hpost)
  | missed hpost hpath => exact hanswers (answers_missed hpost hpath)
  | keyless hpost hkey => exact hanswers (answers_keyless hpost hkey)
  | malformed key hpost hkey hne hbody =>
    obtain ⟨details, ha⟩ := answers_malformed hpost hkey hne hbody
    exact hanswers ha
  | passed key c hpost hkey hne hbody =>
    obtain ⟨e, -, rfl⟩ := (asks_of_gives hpost hkey hne hbody).of_sends hsends
    obtain ⟨status, text, hknown, hjson⟩ := respond_eq_json (String.ofList key) e
    rw [hjson] at hstopped
    rcases hstopped with h405 | h400 | hbare | hempty
    · obtain rfl : status = 405 := h405
      exact absurd hknown (by decide)
    · obtain rfl : status = 400 := h400
      exact absurd hknown (by decide)
    · cases hbare
    · exact absurd (eq_of_serves hkey hempty) hne

theorem asked_at_most_once (o : HandlerOptions) (r : HttpRequest) :
    (∃ response, Answers o r response) ∨
      ∃ key c, o.Serves r key ∧ key ≠ [] ∧ Gives r.body c ∧ Asks o r (String.ofList key) c := by
  cases stage o r with
  | refused hpost => exact .inl ⟨_, answers_refused hpost⟩
  | missed hpost hpath => exact .inl ⟨_, answers_missed hpost hpath⟩
  | keyless hpost hkey => exact .inl ⟨_, answers_keyless hpost hkey⟩
  | malformed key hpost hkey hne hbody =>
    obtain ⟨details, ha⟩ := answers_malformed hpost hkey hne hbody
    exact .inl ⟨_, ha⟩
  | passed key c hpost hkey hne hbody =>
    exact .inr ⟨key, c, hkey, hne, hbody, asks_of_gives hpost hkey hne hbody⟩

theorem handle_contract (h : Handler) (r : HttpRequest) (s : Store) : Contract h r s where
  refused := by
    -- behind the method check there is no response with this header
    refine ⟨fun hsends => ?_, fun hpost => (answers_refused hpost).sends⟩
    by_contra hpost
    by_cases hpath : h.options.Misses r
    · cases (answers_missed hpost hpath).eq_of_sends hsends
    · obtain ⟨hheaders, -⟩ := documented_of_sends hsends hpost hpath
      simp at hheaders
  missed := by
    refine ⟨fun hsends => ?_, fun ⟨hpost, hpath⟩ => (answers_missed hpost hpath).sends⟩
    by_contra hstopped
    by_cases hpost : h.options.Refuses r
    · cases (answers_refused hpost).eq_of_sends hsends
    · obtain ⟨hheaders, -⟩ := documented_of_sends hsends hpost fun hpath => hstopped ⟨hpost, hpath⟩
      cases hheaders
  documented := fun _ hsends => documented_of_sends hsends
  malformed := by
    refine fun key hpost hkey hne => ⟨fun ⟨response, hsends, hstatus⟩ => ?_, fun hbody => ?_⟩
    · exact malformed_of_sends hsends hstatus hpost hkey hne
    · obtain ⟨details, ha⟩ := answers_malformed hpost hkey hne hbody
      exact ⟨_, ha.sends, rfl⟩
  unasked := fun _ hsends => answers_of_sends hsends
  once := asked_at_most_once h.options r
  sent := fun flag _ _ ha heval => ⟨_, ha.sends heval, status_respond_iff flag _⟩

/-- A body whose context is no object. -/
def contextless : Json := .object [("context", .null)]

def alice : Context := ⟨some "alice", .empty⟩

/-- A body with a targeting key. -/
def aliceRequest : Json := .object [("context", .object [("targetingKey", .text "alice")])]

theorem gives_alice : Gives aliceRequest.render.toUTF8 alice := by
  have hrender : (EvaluationRequest.mk alice.flatten).render = aliceRequest.render :=
    EvaluationRequest.render_eq _
  have hfits : (Json.ofTable alice.flatten).Fits bodyRoom :=
    ⟨⟨alice.flatten.ascending, trivial, trivial⟩, by decide⟩
  have hread : readContext (EvaluationRequest.mk alice.flatten).render.toUTF8 = .ok alice :=
    readContext_render rfl hfits
  rw [hrender] at hread
  exact readContext_eq_ok_iff.1 hread

/-- A flag that is on, asked for with a blank body and for a targeting key; the same with a body
that is malformed, with another method, and under a path without the lead. -/
theorem handle_contract_lit :
    let h : Handler := ⟨Service.memoryClient, {}⟩
    let target := "/ofrep/v1/evaluate/flags/dark-mode"
    let s := Service.lit "dark-mode"
    (∃ response a, h.Sends ⟨"POST", target, ⟨#[32, 10]⟩⟩ s response ∧ response.status = 200 ∧
      response.Holds EvaluationSuccess.ofDocument? a ∧ a.key = "dark-mode") ∧
    (∃ response a, h.Sends ⟨"POST", target, aliceRequest.render.toUTF8⟩ s response ∧
      response.status = 200 ∧ response.Holds EvaluationSuccess.ofDocument? a ∧
      a.key = "dark-mode") ∧
    (∃ response, h.Sends ⟨"POST", target, contextless.render.toUTF8⟩ s response ∧
      response.status = 400) ∧
    h.Sends ⟨"GET", target, ⟨#[]⟩⟩ s ⟨405, [("allow", "POST")], ""⟩ ∧
    h.Sends ⟨"POST", "/dark-mode", ⟨#[]⟩⟩ s ⟨404, [], ""⟩ := by
  intro h target s
  have hpost (target : String) (body : ByteArray) : ¬h.options.Refuses ⟨"POST", target, body⟩ :=
    fun hrefused => hrefused.2 rfl
  have hserves (body : ByteArray) : h.options.Serves ⟨"POST", target, body⟩ "dark-mode".toList :=
    .inl (show HttpRequest.pathOf target.toList = _ by decide)
  -- the flag is on whoever asks
  let answer : Resolution Json :=
    ⟨.bool true, some "on", some .static, none, Table.empty.insert "team" (.text "web")⟩
  have hanswer (c : Context) : h.evaluation s (String.ofList "dark-mode".toList) c =
      .ok (answer.of "dark-mode") := rfl
  have hreadable : (answer.of "dark-mode").Readable := ⟨by decide, by decide⟩
  have hlit {body : ByteArray} {c : Context} (hbody : Gives body c) : ∃ response a,
      h.Sends ⟨"POST", target, body⟩ s response ∧ response.status = 200 ∧
        response.Holds EvaluationSuccess.ofDocument? a ∧ a.key = "dark-mode" := by
    have hasks : Asks h.options ⟨"POST", target, body⟩ (String.ofList "dark-mode".toList) c :=
      asks_of_gives (hpost _ _) (hserves _) (by decide) hbody
    obtain ⟨response, hsends, hsuccess⟩ := (handle_contract h _ s).sent _ _ _ hasks (hanswer c)
    have hstatus : response.status = 200 := hsuccess.2 rfl
    obtain ⟨-, ⟨f, -, hcode⟩ | ⟨key, c', e, hkey, -, heval, -, -, hread⟩⟩ :=
      (handle_contract h _ s).documented response hsends (hpost _ _)
        (not_misses_of_serves (hserves _))
    · rw [hstatus] at hcode
      simp [failureCodes] at hcode
    · obtain rfl := eq_of_serves (hserves _) hkey
      obtain rfl := Except.ok.inj (heval.symm.trans (hanswer c'))
      obtain ⟨a, hholds, hflag⟩ := hread hreadable
      exact ⟨response, a, hsends, hstatus, hholds, hflag⟩
  refine ⟨?_, hlit gives_alice, ?_, ?_, ?_⟩
  · have hblank : Blank ⟨#[32, 10]⟩ := by simp [Blank]
    exact hlit (.inl ⟨hblank, rfl⟩)
  · have hblank : ¬Blank contextless.render.toUTF8 := by
      have hbrace : contextless.render.toList = '{' :: _ := String.toList_ofList
      rw [← blank_iff, not_blank hbrace]
      decide
    have hbody : Malformed contextless.render.toUTF8 := by
      refine ⟨hblank, ?_⟩
      rintro ⟨c, request, hread, -⟩
      rw [Document.ofBytes?_render] at hread
      cases hread
    exact ((handle_contract h _ s).malformed _ (hpost _ _) (hserves _) (by decide)).2 hbody
  · exact (handle_contract h _ s).refused.2 ⟨rfl, by decide⟩
  · exact (handle_contract h _ s).missed.2 ⟨hpost _ _, rfl, by decide⟩

end Contract

end Handler

end Remote

end FeatureFlags
