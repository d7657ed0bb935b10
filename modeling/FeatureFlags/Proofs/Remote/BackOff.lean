import FeatureFlags.Proofs.Remote.Exchange

/-!
# Back-off

Calls of a remote provider one after the other, over a transport that may answer anything. Behind a
request that was refused for its rate no request is posted until the delay that came with the
refusal has passed, and then the next evaluation posts again. The suspension that the store holds is
that of the last refusal, or is over (`Tracks`); each call keeps this, and a session is a row of
calls.
-/
namespace FeatureFlags.Remote.Service

/-- A request that was handed to the transport, what came of it, and when that was there. -/
structure Post where
  request : TransportRequest
  outcome : Except Crash (Except TransportFailure TransportResponse)
  time : Nat

/-- The service refused the request for its rate, and the delay starts when the answer is there. -/
def Post.Refused (p : Post) (time delay : Nat) : Prop :=
  ∃ response, p.outcome = .ok (.ok response) ∧ response.status = 429 ∧ time = p.time ∧
    delay = retryDelay response.retryAfter time

/-- The time until which the answer to a request holds others back. -/
def Post.suspension? (p : Post) : Option Nat :=
  match p.outcome with
  | .ok answer => Service.suspension? p.time answer
  | .error _ => none

/-- What a remote provider is asked. -/
inductive Inquiry where
  | resolve (t : FlagType) (flag : String) (default : t.Value) (context : Context)
  | status

namespace Inquiry

abbrev Answer : Inquiry → Type
  | resolve t .. => Resolution t.Value
  | status => Status

def isResolve : Inquiry → Bool
  | resolve .. => true
  | status => false

def ask (service : Service) : (q : Inquiry) → Eval q.Answer
  | resolve t flag default c => service.toProvider.resolve t flag default c
  | status => service.toProvider.status

/-- The outcome while requests are held back: the default with a general error, and the status of an
error. -/
def HeldBack : (q : Inquiry) → Except Crash q.Answer → Prop
  | resolve _ _ default _, outcome => ∃ e, e.code = .general ∧ outcome = .ok (.failed default e)
  | status, outcome => outcome = .ok .error

/-- What happens otherwise: an evaluation posts one request, and the provider is ready. -/
def Free : (q : Inquiry) → List Post → Except Crash q.Answer → Prop
  | resolve .., posts, _ => posts.length = 1
  | status, posts, outcome => posts = [] ∧ outcome = .ok .ready

end Inquiry

/-- A call of the provider, with the requests that it posts. -/
structure Visit where
  start : Store
  inquiry : Inquiry
  posts : List Post

namespace Visit

def outcome (service : Service) (v : Visit) : Except Crash v.inquiry.Answer :=
  ((v.inquiry.ask service).on v.start).1

/-- The store that a call leaves. -/
def behind (service : Service) (v : Visit) : Store := ((v.inquiry.ask service).on v.start).2

/-- One of the requests of a call was refused. -/
def Refused (v : Visit) (time delay : Nat) : Prop := ∃ p ∈ v.posts, p.Refused time delay

end Visit

/-- One of the requests of some calls was refused. -/
def Refusal (past : List Visit) (time delay : Nat) : Prop := ∃ v ∈ past, v.Refused time delay

variable (service : Service)

/-- The provider changes its suspension and the log. -/
def Own (s s' : Store) : Prop := ∃ slot records,
  s' = { s with suspensions := s.suspensions.set service.owner slot, log := s.log ++ records }

/-- A run of the provider from one store to another, with the requests that it posts. -/
inductive Posting : Store → List Post → Store → Prop where
  | done (s : Store) : Posting s [] s
  | own {s s₁ s' : Store} {posts : List Post} (h : service.Own s s₁) (rest : Posting s₁ posts s') :
    Posting s posts s'
  | post {s s₁ s' : Store} {request : TransportRequest}
    {outcome : Except Crash (Except TransportFailure TransportResponse)} {posts : List Post}
    (h : (service.transport request).on s = (outcome, s₁)) (rest : Posting s₁ posts s') :
    Posting s (⟨request, outcome, s₁.now⟩ :: posts) s'

/-- Time may pass and anything may happen, but not to the suspension of the service. -/
def Elapses (s s' : Store) : Prop :=
  s.now ≤ s'.now ∧ s'.suspensions service.owner = s.suspensions service.owner

theorem elapses_at {s : Store} {now : Nat} (h : s.now ≤ now) :
    service.Elapses s { s with now := now } := ⟨h, rfl⟩

/-- Calls one after the other, each with the store in which it is made. -/
inductive Session : Store → List (Store × Inquiry) → Prop where
  | done (s : Store) : Session s []
  | call {s start : Store} {q : Inquiry} {calls : List (Store × Inquiry)}
    (h : service.Elapses s start) (rest : Session ((q.ask service).on start).2 calls) :
    Session s ((start, q) :: calls)

/-- How a call goes behind others. -/
structure BacksOff (past : List Visit) (v : Visit) : Prop where
  posting : service.Posting v.start v.posts (v.behind service)
  time_le : ∀ p ∈ v.posts, v.start.now ≤ p.time
  once : v.posts.length ≤ 1
  held : ∀ time delay, Refusal past time delay → v.start.now < time + delay →
    v.posts = [] ∧ v.inquiry.HeldBack (v.outcome service)
  free : (∀ time delay, Refusal past time delay → time + delay ≤ v.start.now) →
    v.inquiry.Free v.posts (v.outcome service)

/-- The store holds requests back exactly for the refusals that are not over. -/
structure Tracks (past : List Visit) (s : Store) : Prop where
  held : ∀ time delay, Refusal past time delay → s.now < time + delay →
    s.suspensions service.owner = some (time + delay)
  due : ∀ until_, s.suspensions service.owner = some until_ → s.now < until_ →
    ∃ time delay, Refusal past time delay ∧ until_ = time + delay

variable {service} {past : List Visit} {v : Visit} {s s' : Store} {time delay : Nat}

/-! ## Delays -/

/-- No header holds requests back for longer than a day. -/
theorem retryDelay_le_day (header : Option String) (now : Nat) :
    retryDelay header now ≤ 24 * 60 * 60 * 1000 := by
  cases header with
  | none => rw [retryDelay, defaultRetryDelay]; omega
  | some text => exact Nat.min_le_right _ _

theorem refusal_append_singleton :
    Refusal (past ++ [v]) time delay ↔ Refusal past time delay ∨ v.Refused time delay := by
  simp [Refusal, or_and_right, exists_or]

theorem not_refused_of_posts_nil (h : v.posts = []) : ¬v.Refused time delay := by
  simp [Visit.Refused, h]

/-- A refusal is an answer that asks for a suspension. -/
theorem Post.refused_iff {p : Post} :
    p.Refused time delay ↔ time = p.time ∧ p.suspension? = some (time + delay) := by
  obtain ⟨_, outcome, now⟩ := p
  constructor
  · rintro ⟨response, houtcome, hstatus, rfl, rfl⟩
    obtain rfl : outcome = .ok (.ok response) := houtcome
    exact ⟨rfl, if_pos hstatus⟩
  · rintro ⟨rfl, h⟩
    rcases outcome with _ | _ | response
    · cases h
    · cases h
    · by_cases hstatus : response.status = 429
      · have htime : time + retryDelay response.retryAfter time = time + delay :=
          Option.some.inj ((if_pos hstatus).symm.trans h)
        exact ⟨response, rfl, hstatus, rfl, (Nat.add_left_cancel htime).symm⟩
      · cases (if_neg hstatus).symm.trans h

/-- What holds requests back is a refusal. -/
theorem Post.refused_of_suspension? {p : Post} {until_ : Nat} (h : p.suspension? = some until_) :
    ∃ time delay, p.Refused time delay ∧ until_ = time + delay := by
  have hdelay : ∃ delay, until_ = p.time + delay := by
    obtain ⟨_, _ | _ | response, now⟩ := p
    · cases h
    · cases h
    · by_cases hstatus : response.status = 429
      · exact ⟨_, (Option.some.inj ((if_pos hstatus).symm.trans h)).symm⟩
      · cases (if_neg hstatus).symm.trans h
  obtain ⟨delay, rfl⟩ := hdelay
  exact ⟨p.time, delay, refused_iff.2 ⟨rfl, h⟩, rfl⟩

/-! ## One call -/

theorem Tracks.elapse (h : service.Tracks past s) (helapse : service.Elapses s s') :
    service.Tracks past s' := by
  obtain ⟨htime, hslot⟩ := helapse
  constructor
  · intro time delay hrefusal hlt
    rw [hslot]
    exact h.held time delay hrefusal (by omega)
  · intro until_ huntil hlt
    rw [hslot] at huntil
    exact h.due until_ huntil (by omega)

/-- Where no request is held back, every refusal is over. -/
theorem Tracks.over (h : service.Tracks past s) (hfree : service.heldUntil? s = none)
    (hrefusal : Refusal past time delay) : time + delay ≤ s.now := by
  refine Nat.le_of_not_lt fun hlt => ?_
  have hslot := h.held time delay hrefusal hlt
  have hle := heldUntil?_eq_none_iff.1 hfree _ hslot
  omega

/-- A call that posts nothing leaves the refusals as they are. -/
theorem Tracks.quiet (h : service.Tracks past s) (hposts : v.posts = []) :
    service.Tracks (past ++ [v]) s := by
  have hsame (time delay : Nat) :
      Refusal (past ++ [v]) time delay ↔ Refusal past time delay := by
    rw [refusal_append_singleton, or_iff_left (not_refused_of_posts_nil hposts)]
  constructor
  · intro time delay hrefusal
    exact h.held time delay ((hsame time delay).1 hrefusal)
  · intro until_ huntil hlt
    obtain ⟨time, delay, hrefusal, rfl⟩ := h.due until_ huntil hlt
    exact ⟨time, delay, (hsame time delay).2 hrefusal, rfl⟩

theorem own_released (s : Store) : service.Own s (service.released s) := by
  refine ⟨none, [], ?_⟩
  rw [List.append_nil]
  rfl

theorem Tracks.released (h : service.Tracks past s) (hfree : service.heldUntil? s = none) :
    service.Tracks past (service.released s) := by
  constructor
  · intro time delay hrefusal hlt
    have hover := h.over hfree hrefusal
    have hnow : (service.released s).now = s.now := rfl
    omega
  · intro until_ huntil
    simp [Service.released] at huntil

/-- A call while requests are held back. -/
theorem visit_held (h : service.Tracks past s) {until_ : Nat}
    (hheld : service.heldUntil? s = some until_) (q : Inquiry) :
    service.BacksOff past ⟨s, q, []⟩ ∧
      service.Tracks (past ++ [⟨s, q, []⟩]) ((q.ask service).on s).2 := by
  have hrun : q.HeldBack ((q.ask service).on s).1 ∧ ((q.ask service).on s).2 = s := by
    cases q with
    | resolve t flag default c =>
      have hask : ((Inquiry.resolve t flag default c).ask service).on s = _ :=
        Eval.on_bind_ok (on_fetch_held hheld flag c)
      rw [hask]
      exact ⟨⟨_, rfl, rfl⟩, rfl⟩
    | status =>
      have hask : (Inquiry.status.ask service).on s = _ :=
        Eval.on_bind_ok (on_suspendedUntil_held hheld)
      rw [hask]
      exact ⟨rfl, rfl⟩
  obtain ⟨hslot, hlt⟩ := heldUntil?_eq_some_iff.1 hheld
  refine ⟨?_, ?_⟩
  · constructor
    case posting =>
      rw [Visit.behind, hrun.2]
      exact .done s
    case time_le => simp
    case once => simp
    case held => exact fun _ _ _ _ => ⟨rfl, hrun.1⟩
    case free =>
      intro hover
      obtain ⟨time, delay, hrefusal, rfl⟩ := h.due until_ hslot hlt
      exact absurd (hover time delay hrefusal) (Nat.not_le.2 hlt)
  · rw [hrun.2]
    exact h.quiet rfl

theorem visit_ready (h : service.Tracks past s) (hfree : service.heldUntil? s = none) :
    service.BacksOff past ⟨s, .status, []⟩ ∧
      service.Tracks (past ++ [⟨s, .status, []⟩]) ((Inquiry.status.ask service).on s).2 := by
  have hrun : (Inquiry.status.ask service).on s = (.ok .ready, service.released s) :=
    Eval.on_bind_ok (on_suspendedUntil_free hfree)
  refine ⟨?_, ?_⟩
  · constructor
    case posting =>
      rw [Visit.behind, hrun]
      exact .own (own_released s) (.done _)
    case time_le => simp
    case once => simp
    case held =>
      intro time delay hrefusal hlt
      exact absurd (h.over hfree hrefusal) (Nat.not_le.2 hlt)
    case free =>
      rw [Visit.outcome, hrun]
      exact fun _ => ⟨rfl, rfl⟩
  · rw [hrun]
    exact (h.released hfree).quiet rfl

/-- The request that an evaluation posts, from a store that holds no request back. -/
def sentPost (service : Service) (flag : String) (c : Context) (s : Store) : Post :=
  let sent := (service.transport (service.request flag c)).on (service.sending flag s)
  ⟨service.request flag c, sent.1, sent.2.now⟩

/-- An evaluation that posts a request leaves the suspension that the answer asks for. -/
theorem resolve_behind (htransport : ∀ request s, service.Elapses s
      ((service.transport request).on s).2)
    (hfree : service.heldUntil? s = none) (t : FlagType) (flag : String)
    (default : t.Value) (c : Context) :
    let p := service.sentPost flag c s
    let s' := ((service.toProvider.resolve t flag default c).on s).2
    service.Posting s [p] s' ∧ s.now ≤ p.time ∧ s'.now = p.time ∧
      s'.suspensions service.owner = p.suspension? := by
  intro p s'
  have hsending : service.Own s (service.sending flag s) := ⟨none, _, rfl⟩
  have hreleased : (service.sending flag s).suspensions service.owner = none := if_pos rfl
  obtain ⟨htime, hslot⟩ := htransport (service.request flag c) (service.sending flag s)
  have hfetch := on_fetch_sent hfree flag c
  rcases hsent : (service.transport (service.request flag c)).on (service.sending flag s)
    with ⟨⟨⟩ | answer, s₁⟩
  · rw [hsent] at htime hslot
    have hp : p = ⟨service.request flag c, .error .crash, s₁.now⟩ := by
      simp only [p, sentPost, hsent]
    have hs' : s' = s₁ := by
      rw [Eval.on_bind_error hsent] at hfetch
      exact congrArg Prod.snd (Eval.on_bind_error hfetch)
    rw [hp, hs']
    exact ⟨.own hsending (.post hsent (.done s₁)), htime, rfl, hslot.trans hreleased⟩
  · rw [hsent] at htime hslot
    have hp : p = ⟨service.request flag c, .ok answer, s₁.now⟩ := by
      simp only [p, sentPost, hsent]
    obtain ⟨r, records, hreceive⟩ := service.on_receive flag answer s₁
    rw [Eval.on_bind_ok hsent, hreceive, hslot.trans hreleased, Option.or_none] at hfetch
    have hs' : s' = { s₁ with
        suspensions := s₁.suspensions.set service.owner (suspension? s₁.now answer)
        log := s₁.log ++ records } := by
      refine (congrArg Prod.snd (Eval.on_bind_ok hfetch)).trans ?_
      cases r <;> rfl
    rw [hp, hs']
    exact ⟨.own hsending (.post hsent (.own ⟨_, records, rfl⟩ (.done _))), htime, rfl, if_pos rfl⟩

theorem visit_sent (htransport : ∀ request s, service.Elapses s
      ((service.transport request).on s).2)
    (h : service.Tracks past s) (hfree : service.heldUntil? s = none) (t : FlagType)
    (flag : String) (default : t.Value) (c : Context) :
    let v : Visit := ⟨s, .resolve t flag default c, [service.sentPost flag c s]⟩
    service.BacksOff past v ∧ service.Tracks (past ++ [v]) (v.behind service) := by
  intro v
  obtain ⟨hposting, hbegun, htime, hslot⟩ := resolve_behind htransport hfree t flag default c
  have hrefused (time delay : Nat) : v.Refused time delay ↔
      (service.sentPost flag c s).Refused time delay := by
    simp [v, Visit.Refused]
  refine ⟨?_, ?_⟩
  · constructor
    case posting => exact hposting
    case time_le => exact List.forall_mem_singleton.2 hbegun
    case once => exact Nat.le_refl 1
    case held =>
      intro time delay hrefusal hlt
      exact absurd (h.over hfree hrefusal) (Nat.not_le.2 hlt)
    case free => exact fun _ => rfl
  · constructor
    · intro time delay hrefusal hlt
      rcases refusal_append_singleton.1 hrefusal with hpast | hnew
      · have hover := h.over hfree hpast
        have hnow : (v.behind service).now = (service.sentPost flag c s).time := htime
        omega
      · rw [hrefused, Post.refused_iff] at hnew
        exact hslot.trans hnew.2
    · intro until_ huntil _
      obtain ⟨time, delay, hnew, rfl⟩ := Post.refused_of_suspension? (hslot.symm.trans huntil)
      exact ⟨time, delay, refusal_append_singleton.2 (.inr ((hrefused time delay).2 hnew)), rfl⟩

/-- A call behind others, in a store that holds back what their refusals ask for. -/
theorem visit_backsOff (htransport : ∀ request s, service.Elapses s
      ((service.transport request).on s).2)
    (h : service.Tracks past s) (q : Inquiry) : ∃ posts,
    service.BacksOff past ⟨s, q, posts⟩ ∧
      service.Tracks (past ++ [⟨s, q, posts⟩]) ((q.ask service).on s).2 := by
  cases hheld : service.heldUntil? s with
  | some until_ => exact ⟨[], visit_held h hheld q⟩
  | none =>
    cases q with
    | resolve t flag default c => exact ⟨_, visit_sent htransport h hheld t flag default c⟩
    | status => exact ⟨[], visit_ready h hheld⟩

/-! ## Sessions -/

theorem session_visits (htransport : ∀ request s, service.Elapses s
      ((service.transport request).on s).2) {calls : List (Store × Inquiry)}
    (hsession : service.Session s calls) (h : service.Tracks past s) :
    ∃ visits : List Visit, visits.map (fun v => (v.start, v.inquiry)) = calls ∧
      ∀ before v after, visits = before ++ v :: after → service.BacksOff (past ++ before) v := by
  induction hsession generalizing past with
  | done s => exact ⟨[], rfl, by simp⟩
  | @call s start q calls helapses _ ih =>
    obtain ⟨posts, hvisit, htracks⟩ := visit_backsOff htransport (h.elapse helapses) q
    obtain ⟨visits, hcalls, hrest⟩ := ih htracks
    refine ⟨⟨start, q, posts⟩ :: visits, by rw [List.map_cons, hcalls], ?_⟩
    rintro (_ | ⟨first, before⟩) v after hsplit
    · obtain ⟨rfl, -⟩ := List.cons.inj hsplit
      rwa [List.append_nil]
    · obtain ⟨rfl, htail⟩ := List.cons.inj hsplit
      have hv := hrest before v after htail
      rwa [List.append_assoc, List.singleton_append] at hv

/-- Asking for the status posts nothing. -/
theorem BacksOff.status_posts (h : service.BacksOff past v)
    (hstatus : v.inquiry.isResolve = false) : v.posts = [] := by
  obtain ⟨start, q, posts⟩ := v
  cases q with
  | resolve => cases hstatus
  | status =>
    by_cases hover : ∀ time delay, Refusal past time delay → time + delay ≤ start.now
    · exact (h.free hover).1
    · simp only [Classical.not_forall, Nat.not_le] at hover
      obtain ⟨time, delay, hrefusal, hlt⟩ := hover
      exact (h.held time delay hrefusal hlt).1

/-- A call that posts comes behind the end of every refusal. -/
theorem BacksOff.over (h : service.BacksOff past v) (hposts : v.posts ≠ [])
    (hrefusal : Refusal past time delay) : time + delay ≤ v.start.now :=
  Nat.le_of_not_lt fun hlt => hposts (h.held time delay hrefusal hlt).1

/-- A call has one refusal at most. -/
theorem BacksOff.refused_unique (h : service.BacksOff past v) {time' delay' : Nat}
    (hrefused : v.Refused time delay) (hrefused' : v.Refused time' delay') :
    time' = time ∧ delay' = delay := by
  obtain ⟨p, hp, hrefused⟩ := hrefused
  obtain ⟨p', hp', hrefused'⟩ := hrefused'
  have hone : v.posts = [p] := by
    obtain ⟨first, rest, hposts⟩ := List.exists_cons_of_ne_nil (List.ne_nil_of_mem hp)
    have honce := h.once
    rw [hposts, List.length_cons] at honce
    have hrest : rest = [] := List.eq_nil_of_length_eq_zero (by omega)
    rw [hposts, hrest] at hp ⊢
    rw [List.mem_singleton.1 hp]
  rw [hone, List.mem_singleton] at hp'
  subst hp'
  obtain ⟨htime, hdelay⟩ := Post.refused_iff.1 hrefused
  obtain ⟨htime', hdelay'⟩ := Post.refused_iff.1 hrefused'
  have hsum : time + delay = time' + delay' := Option.some.inj (hdelay.symm.trans hdelay')
  omega

/-- The first evaluation behind the end of a refusal posts again. -/
theorem posts_again {visits earlier later after : List Visit} {w v : Visit}
    (hvisits : ∀ before v after, visits = before ++ v :: after → service.BacksOff before v)
    (hsplit : visits = (earlier ++ w :: later) ++ v :: after) (hrefused : w.Refused time delay)
    (hover : time + delay ≤ v.start.now) (hresolve : v.inquiry.isResolve = true)
    (hfirst : ∀ u ∈ later, u.inquiry.isResolve = true → u.start.now < time + delay) :
    v.posts.length = 1 := by
  have hw : service.BacksOff earlier w :=
    hvisits earlier w (later ++ v :: after) (by rw [hsplit, List.append_assoc]; rfl)
  obtain ⟨p, hp, hprefused⟩ := id hrefused
  have hbegun : w.start.now ≤ time := by
    rw [(Post.refused_iff.1 hprefused).1]
    exact hw.time_le p hp
  -- in between, evaluations are held back by this very refusal
  have hquiet : ∀ u ∈ later, u.posts = [] := by
    intro u hu
    obtain ⟨before, behind, rfl⟩ := List.append_of_mem hu
    have hlaw : service.BacksOff (earlier ++ w :: before) u :=
      hvisits _ u (behind ++ v :: after) (by rw [hsplit]; simp)
    cases hkind : u.inquiry.isResolve with
    | false => exact hlaw.status_posts hkind
    | true =>
      have hrefusal : Refusal (earlier ++ w :: before) time delay := ⟨w, by simp, hrefused⟩
      exact (hlaw.held time delay hrefusal (hfirst u hu hkind)).1
  have hall : ∀ time' delay', Refusal (earlier ++ w :: later) time' delay' →
      time' + delay' ≤ v.start.now := by
    rintro time' delay' ⟨u, hu, hrefusal⟩
    rcases List.mem_append.1 hu with hu | hu
    · have hbefore := hw.over (List.ne_nil_of_mem hp) ⟨u, hu, hrefusal⟩
      omega
    · rcases List.mem_cons.1 hu with rfl | hu
      · obtain ⟨rfl, rfl⟩ := hw.refused_unique hrefused hrefusal
        exact hover
      · exact absurd hrefusal (not_refused_of_posts_nil (hquiet u hu))
  have hfree := (hvisits _ v after hsplit).free hall
  obtain ⟨start, q, posts⟩ := v
  cases q with
  | resolve => exact hfree
  | status => cases hresolve

/-- Calls one after the other, from a store without a suspension, over a transport that may answer
anything: an evaluation posts one request at most; from a refusal on, until the delay that came with
it has passed, and for no longer than a day, nothing is posted, evaluations serve their default with
a general error and the status is an error; and at any other time an evaluation posts a request,
so the first one behind the end of a refusal does, and the status is ready. -/
theorem session_backs_off (htransport : ∀ request s, service.Elapses s
      ((service.transport request).on s).2)
    (hs : s.suspensions service.owner = none) {calls : List (Store × Inquiry)}
    (hsession : service.Session s calls) :
    (∀ header now, retryDelay header now ≤ 24 * 60 * 60 * 1000) ∧
    ∃ visits : List Visit, visits.map (fun v => (v.start, v.inquiry)) = calls ∧
      ∀ before v after, visits = before ++ v :: after →
        service.Posting v.start v.posts (v.behind service) ∧ v.posts.length ≤ 1 ∧
        (∀ time delay, Refusal before time delay → v.start.now < time + delay →
          v.posts = [] ∧ v.inquiry.HeldBack (v.outcome service)) ∧
        ((∀ time delay, Refusal before time delay → time + delay ≤ v.start.now) →
          v.inquiry.Free v.posts (v.outcome service)) ∧
        ∀ earlier w later, before = earlier ++ w :: later → ∀ time delay, w.Refused time delay →
          time + delay ≤ v.start.now → v.inquiry.isResolve = true →
          (∀ u ∈ later, u.inquiry.isResolve = true → u.start.now < time + delay) →
          v.posts.length = 1 := by
  have htracks : service.Tracks [] s := by
    constructor
    · rintro time delay ⟨v, hv, -⟩
      cases hv
    · intro until_ huntil
      rw [hs] at huntil
      cases huntil
  obtain ⟨visits, hcalls, hvisits⟩ := session_visits htransport hsession htracks
  refine ⟨retryDelay_le_day, visits, hcalls, fun before v after hsplit => ?_⟩
  have hlaw : service.BacksOff before v := hvisits before v after hsplit
  refine ⟨hlaw.posting, hlaw.once, hlaw.held, hlaw.free, ?_⟩
  rintro earlier w later rfl time delay hrefused hover hresolve hfirst
  exact posts_again hvisits hsplit hrefused hover hresolve hfirst

/-- A service that refuses every request for two seconds. -/
def refusing : Service where
  owner := 0
  base := ⟨['h', 't', 't', 'p'], some ⟨[], [], ['h'], none⟩, false, .segments [[]], none, none⟩
  headers := []
  transport := fun _ => return .ok ⟨429, some "2", .empty⟩

theorem Posting.refusing {posts : List Post} (h : refusing.Posting s posts s') :
    ∀ p ∈ posts, p.Refused s.now 2000 := by
  induction h with
  | done => simp
  | own hown _ ih =>
    obtain ⟨slot, records, rfl⟩ := hown
    exact ih
  | post hpost _ ih =>
    cases hpost
    refine List.forall_mem_cons.2 ⟨⟨_, rfl, rfl, rfl, ?_⟩, ih⟩
    rfl

/-- Until two seconds have passed the service is left alone, and then it is asked again. -/
theorem session_backs_off_refusing :
    let q : Inquiry := .resolve .boolean "f" true .empty
    let first := Store.fresh 0
    let second := { ((q.ask refusing).on first).2 with now := 1 }
    let third := { ((Inquiry.status.ask refusing).on second).2 with now := 1999 }
    let fourth := { ((q.ask refusing).on third).2 with now := 2000 }
    refusing.Session first [(first, q), (second, .status), (third, q), (fourth, q)] ∧
      ((Inquiry.status.ask refusing).on second).1 = .ok .error ∧
      q.HeldBack ((q.ask refusing).on third).1 ∧
      ∃ again, refusing.Posting fourth [again] ((q.ask refusing).on fourth).2 := by
  intro q first second third fourth
  have htransport : ∀ request s, refusing.Elapses s ((refusing.transport request).on s).2 :=
    fun _ _ => ⟨Nat.le_refl _, rfl⟩
  have hsession :
      refusing.Session first [(first, q), (second, .status), (third, q), (fourth, q)] := by
    have hfirst : ((q.ask refusing).on first).2.now ≤ 1 := Nat.zero_le 1
    have hsecond : ((Inquiry.status.ask refusing).on second).2.now ≤ 1999 := by decide +kernel
    have hthird : ((q.ask refusing).on third).2.now ≤ 2000 := by decide +kernel
    exact .call (elapses_at _ (Nat.le_refl 0)) (.call (elapses_at _ hfirst)
      (.call (elapses_at _ hsecond) (.call (elapses_at _ hthird) (.done _))))
  obtain ⟨-, visits, hcalls, hlaw⟩ := session_backs_off htransport rfl hsession
  have hsecond : second.now = 1 := rfl
  have hthird : third.now = 1999 := rfl
  have hfourth : fourth.now = 2000 := rfl
  refine ⟨hsession, ?_⟩
  clear hsession
  clear_value fourth third second
  obtain ⟨posts₁, posts₂, posts₃, posts₄, rfl⟩ : ∃ posts₁ posts₂ posts₃ posts₄, visits =
      [⟨first, q, posts₁⟩, ⟨second, .status, posts₂⟩, ⟨third, q, posts₃⟩,
        ⟨fourth, q, posts₄⟩] := by
    rcases visits with _ | ⟨⟨_, _, posts₁⟩, _ | ⟨⟨_, _, posts₂⟩, _ | ⟨⟨_, _, posts₃⟩,
      _ | ⟨⟨_, _, posts₄⟩, _ | ⟨v₅, rest⟩⟩⟩⟩⟩
    case cons.cons.cons.cons.nil =>
      simp only [List.map_cons, List.map_nil, List.cons.injEq, Prod.mk.injEq] at hcalls
      obtain ⟨⟨rfl, rfl⟩, ⟨rfl, rfl⟩, ⟨rfl, rfl⟩, ⟨rfl, rfl⟩, -⟩ := hcalls
      exact ⟨posts₁, posts₂, posts₃, posts₄, rfl⟩
    all_goals simp at hcalls
  obtain ⟨hposting, -, -, hfree, -⟩ := hlaw [] ⟨first, q, posts₁⟩ _ rfl
  have hone : posts₁.length = 1 := hfree (by rintro _ _ ⟨_, hv, -⟩; cases hv)
  obtain ⟨p, hp⟩ : ∃ p, p ∈ posts₁ := List.exists_mem_of_length_pos (by omega)
  have hrefused : Visit.Refused ⟨first, q, posts₁⟩ 0 2000 := ⟨p, hp, hposting.refusing p hp⟩
  obtain ⟨-, -, hstatus, -⟩ := hlaw [⟨first, q, posts₁⟩] ⟨second, .status, posts₂⟩ _ rfl
  obtain ⟨-, -, hheld, -⟩ := hlaw [⟨first, q, posts₁⟩, ⟨second, .status, posts₂⟩]
    ⟨third, q, posts₃⟩ _ rfl
  obtain ⟨hagain, -, -, -, hfirst⟩ := hlaw [⟨first, q, posts₁⟩, ⟨second, .status, posts₂⟩,
    ⟨third, q, posts₃⟩] ⟨fourth, q, posts₄⟩ [] rfl
  refine ⟨(hstatus 0 2000 ⟨_, by simp, hrefused⟩ (by simp [hsecond])).2,
    (hheld 0 2000 ⟨_, by simp, hrefused⟩ (by simp [hthird])).2, ?_⟩
  have hposts : posts₄.length = 1 := by
    refine hfirst [] _ [_, _] rfl 0 2000 hrefused (by simp [hfourth]) rfl ?_
    intro u hu _
    simp only [List.mem_cons, List.not_mem_nil, or_false] at hu
    rcases hu with rfl | rfl
    · simp [hsecond]
    · simp [hthird]
  obtain ⟨again, rfl⟩ := List.length_eq_one_iff.1 hposts
  exact ⟨again, hagain⟩

end FeatureFlags.Remote.Service
