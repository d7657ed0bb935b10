import FeatureFlags.Memory.Provider
import FeatureFlags.Proofs.Remote.Exchange
import FeatureFlags.Proofs.Remote.Stages
import FeatureFlags.Proofs.Url.Extended

/-!
# Keys in paths

A service writes the key of a flag as the last segment of a path, and a handler takes the key from
the path as it is written. A key that stands for itself as a segment is the one for which the
handler's client is asked; for any other key the client is asked for another one or not at all
(`handle_request`).
-/
namespace FeatureFlags

namespace Remote.HttpRequest

/-! ## The path of a request -/

theorem afterAuthority?_append {scheme rest : List Char} (h : ∀ c ∈ scheme, c ≠ ':' ∧ c ≠ '/') :
    afterAuthority? (scheme ++ ':' :: '/' :: '/' :: rest) =
      some (rest.dropWhile fun c => c ≠ '/' && c ≠ '?' && c ≠ '#') := by
  induction scheme with
  | nil => rfl
  | cons c scheme ih =>
    obtain ⟨⟨hcolon, hslash⟩, hscheme⟩ := List.forall_mem_cons.1 h
    rw [List.cons_append, afterAuthority?, if_neg hslash, ih hscheme]
    exact fun _ heq => absurd heq hcolon

/-- What is written behind the path starts with a mark that ends the path. -/
theorem chars_eq_append {u : Url} {a : Url.Authority} (ha : u.authority = some a) : ∃ tail,
    u.chars = u.scheme ++ ':' :: '/' :: '/' :: (a.chars ++ (u.path.chars ++ tail)) ∧
      tail.takeWhile (fun c => c ≠ '?' && c ≠ '#') = [] := by
  obtain ⟨scheme, authority, hasDot, path, query, fragment⟩ := u
  obtain rfl : authority = some a := ha
  rcases query with _ | q
  all_goals rcases fragment with _ | f
  · exact ⟨[], by simp [Url.chars], rfl⟩
  · exact ⟨'#' :: f, by simp [Url.chars], rfl⟩
  · exact ⟨'?' :: q, by simp [Url.chars], rfl⟩
  · exact ⟨'?' :: (q ++ '#' :: f), by simp [Url.chars], rfl⟩

theorem mem_pathChars {list : List (List Char)} {c : Char}
    (h : c ∈ (Url.Path.segments list).chars) : c = '/' ∨ ∃ segment ∈ list, c ∈ segment := by
  obtain ⟨segment, hsegment, hc⟩ := List.mem_flatMap.1 h
  rcases List.mem_cons.1 hc with rfl | hc
  · exact .inl rfl
  · exact .inr ⟨segment, hsegment, hc⟩

/-- The path of a URL that was read is what its segments are written as. -/
theorem pathOf_chars {u : Url} (h : u.WellFormed) {a : Url.Authority} (ha : u.authority = some a)
    {list : List (List Char)} (hpath : u.path = .segments list) (hne : list ≠ []) :
    pathOf u.chars = u.path.chars := by
  obtain ⟨tail, hchars, htail⟩ := chars_eq_append ha
  obtain ⟨first, rest, hscheme⟩ := List.exists_cons_of_ne_nil h.scheme_ne_nil
  have hslash : first ≠ '/' := (h.scheme first (by rw [hscheme]; exact List.mem_cons_self)).2
  have hhead : u.chars.head? ≠ some '/' := by
    rw [hchars, hscheme]
    simpa using hslash
  have hstar : u.chars ≠ ['*'] := by
    intro heq
    have hcolon : ':' ∈ u.chars := by simp [hchars]
    rw [heq] at hcolon
    exact absurd (List.mem_singleton.1 hcolon) (by decide)
  obtain ⟨segment, list, rfl⟩ := List.exists_cons_of_ne_nil hne
  have hslashed : u.path.chars = '/' :: (segment ++ (Url.Path.segments list).chars) := by
    rw [hpath]
    rfl
  have hauthority : ∀ c ∈ a.chars, (c ≠ '/' && c ≠ '?' && c ≠ '#') = true := by
    intro c hc
    have hopen := h.authority a ha c hc
    simpa [Url.isEnd, and_assoc] using hopen
  have hcounted : ∀ c ∈ u.path.chars, (c ≠ '?' && c ≠ '#') = true := by
    intro c hc
    rw [hpath] at hc
    rcases mem_pathChars hc with rfl | ⟨segment, hsegment, hc⟩
    · rfl
    · have hopen := h.path _ hpath segment hsegment c hc
      simp [Url.isEnd] at hopen
      simp [hopen]
  have hafter : afterAuthority? u.chars = some (u.path.chars ++ tail) := by
    rw [hchars, afterAuthority?_append h.scheme, List.dropWhile_append_of_pos hauthority, hslashed]
    rfl
  have huntil : (u.path.chars ++ tail).takeWhile (fun c => c ≠ '?' && c ≠ '#') = u.path.chars := by
    rw [List.takeWhile_append_of_pos hcounted, htail, List.append_nil]
  have hnonempty : u.path.chars.isEmpty = false := by
    rw [hslashed]
    rfl
  rw [pathOf, if_neg hhead, if_neg hstar, hafter]
  simp only [huntil, hnonempty]
  rfl

end Remote.HttpRequest

namespace Remote

open Url (IsSegment pushSegment)

/-! ## Handlers -/

namespace Handler

/-- The request of a service as a handler gets it. -/
def received (r : TransportRequest) : HttpRequest := ⟨"POST", r.url.text, r.body.toUTF8⟩

variable {h : Handler} {r : TransportRequest} {o : HandlerOptions} {key path : List Char}

theorem not_refuses_received : ¬o.Refuses (received r) := fun hrefused => hrefused.2 rfl

theorem handle_of_key (hkey : flagKey? h.options (received r).path = some key) (hne : key ≠ [])
    {c : Context} (hbody : readContext r.body.toUTF8 = .ok c) :
    h.handle (received r) = h.asking (String.ofList key) c :=
  handle_passed not_refuses_received (flagKey?_eq_some_iff.1 hkey) hne
    (readContext_eq_ok_iff.1 hbody)

/-- Without a key the client is not asked. -/
theorem handle_without_key
    (hkey : ∀ key, flagKey? h.options (received r).path = some key → key = []) :
    ∃ response, h.handle (received r) = pure response := by
  cases hfound : flagKey? h.options (received r).path with
  | none => exact ⟨_, handle_missed not_refuses_received (flagKey?_eq_none_iff.1 hfound)⟩
  | some key =>
    obtain rfl := hkey key hfound
    exact ⟨_, handle_keyless not_refuses_received (flagKey?_eq_some_iff.1 hfound)⟩

/-- In a path without the lead there is no other key than the last segment. -/
theorem eq_of_flagKey? {front segment : List Char} (hopen : '/' ∉ segment)
    (hshort : ¬o.pathLead.toList <+: front ++ '/' :: segment)
    (hkey : flagKey? o (front ++ '/' :: segment) = some key) : key = segment := by
  have hlast : lastSegment (front ++ '/' :: segment) = segment :=
    lastSegment_eq_iff.2 ⟨hopen, .inr ⟨front, rfl⟩⟩
  rw [flagKey?, if_neg (mt List.isPrefixOf_iff_prefix.1 hshort), hlast] at hkey
  split at hkey
  · cases hkey
  · exact (Option.some.inj hkey).symm

end Handler

theorem pathChars_snoc (front : List (List Char)) (segment : List Char) :
    (Url.Path.segments (front ++ [segment])).chars =
      (Url.Path.segments front).chars ++ '/' :: segment := by
  simp [Url.Path.chars]

/-! ## The way of a key -/

namespace Service

/-- What stands in front of the key in the paths of a service's requests. -/
def pathLead (service : Service) : List Char :=
  (service.base.extend evaluationPath).path.chars ++ ['/']

variable {service : Service} {flag : String}

/-- The segments of the base URL, and behind them those under which flags are found. -/
def flagsPath (service : Service) : List (List Char) :=
  match service.base.path with
  | .plain _ => []
  | .segments segments => Url.stem segments ++ evaluationPath.map String.toList

theorem flagsPath_eq (hbase : service.base.isBase = true) :
    ∃ front, service.flagsPath = front ++ ["flags".toList] := by
  rcases hpath : service.base.path with text | segments
  · rw [Url.isBase, hpath] at hbase
    cases hbase
  · refine ⟨Url.stem segments ++ ["ofrep".toList, "v1".toList, "evaluate".toList], ?_⟩
    rw [flagsPath, hpath, List.append_assoc]
    rfl

/-- Nothing but the path of the base URL changes. -/
theorem extend_evaluationPath (hbase : service.base.isBase = true) (texts : List String) :
    service.base.extend (evaluationPath ++ texts) = { service.base with
      path := .segments (texts.foldl (pushSegment service.base.isSpecial) service.flagsPath) } := by
  have hlead : ∀ text ∈ evaluationPath, IsSegment service.base.isSpecial text ∧ text ≠ "" := by
    cases service.base.isSpecial <;> decide
  rcases hpath : service.base.path with text | segments
  · rw [Url.isBase, hpath] at hbase
    cases hbase
  · rw [Url.extend_append hpath hlead (List.cons_ne_nil _ _), flagsPath, hpath]

theorem evaluationUrl_path (hbase : service.base.isBase = true) : ∃ front,
    (service.base.extend evaluationPath).path = .segments (front ++ ["flags".toList]) ∧
      ∀ flag, (service.evaluationUrl flag).path =
        .segments (pushSegment service.base.isSpecial (front ++ ["flags".toList]) flag) := by
  obtain ⟨front, hflags⟩ := flagsPath_eq hbase
  have hextend := extend_evaluationPath hbase
  rw [hflags] at hextend
  refine ⟨front, ?_, fun flag => ?_⟩
  · rw [← List.append_nil evaluationPath, hextend]
    rfl
  · rw [evaluationUrl, hextend]
    rfl

/-- A handler takes the key of a flag from the path exactly if it stands for itself as a segment. -/
theorem flagKey?_eq_iff (hbase : service.base.isBase = true) {o : HandlerOptions}
    (hlead : o.pathLead.toList = service.pathLead) (hflag : flag ≠ "") :
    Handler.flagKey? o (service.evaluationUrl flag).path.chars = some flag.toList ↔
      IsSegment service.base.isSpecial flag := by
  obtain ⟨front, hfront, hurl⟩ := evaluationUrl_path hbase
  let flags := "flags".toList
  have hlead : o.pathLead.toList = (Url.Path.segments (front ++ [flags])).chars ++ ['/'] := by
    rw [hlead, pathLead, hfront]
  have hsegments : front ++ [flags] ≠ [[]] := by
    intro heq
    have hlast := congrArg List.getLast? heq
    simp [flags] at hlast
  have hnonempty : flag.toList ≠ [] := Url.toList_ne hflag
  rw [hurl]
  constructor
  · intro hkey
    refine Decidable.byContradiction fun hkept => ?_
    rcases Url.pushSegment_cases hkept hsegments with ⟨hdots, hpush⟩ | hpush | hpush |
      ⟨other, hother, hpush⟩
    · -- the path ends with the segment in front of the key
      rw [hpush, pathChars_snoc] at hkey
      rw [pathChars_snoc] at hlead
      have hshort : ¬o.pathLead.toList <+: (Url.Path.segments front).chars ++ '/' :: flags := by
        intro hprefix
        have hlength := hprefix.length_le
        rw [hlead, List.length_append] at hlength
        exact absurd hlength (Nat.not_succ_le_self _)
      have hsame : flag.toList = flags := Handler.eq_of_flagKey? (by decide) hshort hkey
      rcases hdots with rfl | rfl
      · exact absurd hsame (by decide)
      · exact absurd hsame (by decide)
    · -- the segment in front of the key is gone
      have hshorten : Url.shorten (front ++ [flags]) = front := by
        have hdrive : Url.startsWithDrive flags = false := by decide
        rw [Url.shorten, List.getLast?_concat, Option.any_some, hdrive, List.dropLast_concat]
        rfl
      rw [hpush, hshorten, pathChars_snoc] at hkey
      rw [pathChars_snoc] at hlead
      have hshort : ¬o.pathLead.toList <+: (Url.Path.segments front).chars ++ ['/'] := by
        intro hprefix
        have hlength := hprefix.length_le
        simp [hlead, flags] at hlength
      exact hnonempty (Handler.eq_of_flagKey? List.not_mem_nil hshort hkey)
    · have hempty := Handler.flagKey?_of_lead (o := o) (List.append_nil o.pathLead.toList).symm
      rw [hpush, pathChars_snoc, ← hlead, hempty] at hkey
      exact hnonempty (Option.some.inj hkey).symm
    · have hpath : (Url.Path.segments (front ++ [flags] ++ [other])).chars =
          o.pathLead.toList ++ other := by
        rw [pathChars_snoc, hlead, List.append_assoc]
        rfl
      rw [hpush, Handler.flagKey?_of_lead hpath] at hkey
      exact hother (Option.some.inj hkey)
  · intro hkept
    apply Handler.flagKey?_of_lead
    rw [Url.pushSegment_of_isSegment hkept, if_neg hsegments, hlead, pathChars_snoc,
      List.append_assoc]
    rfl

/-- An address without a path has the lead that handlers have by default. -/
theorem pathLead_of_root (hroot : service.base.path = .segments [] ∨
    service.base.path = .segments [[]]) :
    service.pathLead = "/ofrep/v1/evaluate/flags/".toList := by
  have hsegments (special : Bool) : evaluationPath.foldl (pushSegment special) [] =
      evaluationPath.map String.toList := by
    cases special <;> decide
  have hpath : (service.base.extend evaluationPath).path =
      .segments (evaluationPath.map String.toList) := by
    rw [← hsegments service.base.isSpecial, Url.extend]
    rcases hroot with h | h
    all_goals
      rw [h]
      rfl
  rw [pathLead, hpath]
  decide

section Requests

variable {owner : Nat} {settings : RemoteSettings} {transport : Transport} {h : Handler}

theorem ofSettings_eq_ok (hservice : ofSettings owner settings transport = .ok service) :
    ∃ base, Url.ofText? settings.baseUrl = some base ∧ base.isBase = true ∧
      service = ⟨owner, base, settings.requestHeaders, transport⟩ := by
  rw [ofSettings] at hservice
  split at hservice
  · cases hservice
  next base hbase =>
    split at hservice
    next hsegments => exact ⟨base, hbase, hsegments, (Except.ok.inj hservice).symm⟩
    next => cases hservice

theorem base_of_settings (hservice : ofSettings owner settings transport = .ok service) :
    service.base.WellFormed ∧ service.base.isBase = true := by
  obtain ⟨base, hbase, hsegments, rfl⟩ := ofSettings_eq_ok hservice
  exact ⟨Url.ofChars?_wellFormed hbase, hsegments⟩

/-- The path of a request as the handler sees it. -/
theorem path_received (hservice : ofSettings owner settings transport = .ok service)
    (hauthority : service.base.authority.isSome = true) (flag : String) (c : Context) :
    (Handler.received (service.request flag c)).path =
      (service.evaluationUrl flag).path.chars := by
  obtain ⟨hwell, hbase⟩ := base_of_settings hservice
  obtain ⟨a, ha⟩ := Option.isSome_iff_exists.1 hauthority
  obtain ⟨front, -, hurl⟩ := evaluationUrl_path hbase
  have hsame : (service.evaluationUrl flag).authority = some a := by
    rw [← ha, evaluationUrl, Url.extend]
    cases service.base.path <;> rfl
  have hne : pushSegment service.base.isSpecial (front ++ ["flags".toList]) flag ≠ [] :=
    Url.pushSegment_ne_nil _ (by simp) flag
  have hurlWell : (service.evaluationUrl flag).WellFormed := hwell.extend _
  have htarget : (Handler.received (service.request flag c)).target.toList =
      (service.evaluationUrl flag).chars := String.toList_ofList
  rw [HttpRequest.path, htarget]
  exact HttpRequest.pathOf_chars hurlWell hsame (hurl flag) hne

/-- For a key that stands for itself as a segment the handler's client is asked. -/
theorem handle_segment (hservice : ofSettings owner settings transport = .ok service)
    (hauthority : service.base.authority.isSome = true)
    (hlead : h.options.pathLead.toList = service.pathLead) (hflag : flag ≠ "")
    (hkept : IsSegment service.base.isSpecial flag) {c read : Context}
    (hbody : Handler.readContext (service.request flag c).body.toUTF8 = .ok read) :
    h.handle (Handler.received (service.request flag c)) = h.asking flag read := by
  have hkey := (flagKey?_eq_iff (base_of_settings hservice).2 hlead hflag).2 hkept
  rw [← path_received hservice hauthority flag c] at hkey
  have hasked := Handler.handle_of_key hkey (Url.toList_ne hflag) hbody
  rwa [String.ofList_toList] at hasked

/-- A key that stands for itself in a path is the one for which the handler's client is asked. Any
other key is not: the client is asked for another one, or not at all. -/
theorem handle_request (hservice : ofSettings owner settings transport = .ok service)
    (hauthority : service.base.authority.isSome = true)
    (hlead : h.options.pathLead.toList = service.pathLead) (hflag : flag ≠ "") {c read : Context}
    (hbody : Handler.readContext (service.request flag c).body.toUTF8 = .ok read) :
    let request := Handler.received (service.request flag c)
    (IsSegment service.base.isSpecial flag → h.handle request = h.asking flag read) ∧
      (¬IsSegment service.base.isSpecial flag →
        (∃ other, other ≠ flag ∧ h.handle request = h.asking other read) ∨
          ∃ response, h.handle request = pure response) := by
  intro request
  have hpath : request.path = (service.evaluationUrl flag).path.chars :=
    path_received hservice hauthority flag c
  refine ⟨fun hkept => handle_segment hservice hauthority hlead hflag hkept hbody, fun hkept => ?_⟩
  by_cases hempty : ∀ key, Handler.flagKey? h.options request.path = some key → key = []
  · exact .inr (Handler.handle_without_key hempty)
  · simp only [Classical.not_forall] at hempty
    obtain ⟨key, hfound, hne⟩ := hempty
    have hother : String.ofList key ≠ flag := by
      rintro rfl
      refine hkept ((flagKey?_eq_iff (base_of_settings hservice).2 hlead hflag).1 ?_)
      rw [← hpath, hfound, String.toList_ofList]
    exact .inl ⟨_, hother, Handler.handle_of_key hfound hne hbody⟩

end Requests

/-! ## A service on this machine -/

deriving instance DecidableEq for Url.Authority, Url.Path, Url

def localSettings : RemoteSettings := { baseUrl := "http://[::1]:8016" }

def localBase : Url where
  scheme := "http".toList
  authority := some ⟨[], [], "[::1]".toList, some 8016⟩
  hasDot := false
  path := .segments [[]]
  query := none
  fragment := none

/-- A service whose requests are handed to a handler around a client. -/
def around (client : Client) : Service :=
  ⟨0, localBase, localSettings.requestHeaders, (Handler.mk client {}).transport⟩

theorem around_of_settings (client : Client) :
    ofSettings 0 localSettings (Handler.mk client {}).transport = .ok (around client) := by
  have hbase : Url.ofText? localSettings.baseUrl = some localBase := by decide +kernel
  rw [ofSettings, hbase]
  rfl

theorem around_pathLead (client : Client) :
    (Handler.mk client {}).options.pathLead.toList = (around client).pathLead :=
  (pathLead_of_root (.inr rfl)).symm

theorem readContext_empty (service : Service) (flag : String) :
    Handler.readContext (service.request flag .empty).body.toUTF8 = .ok .empty :=
  Handler.readContext_render rfl ⟨⟨.nil, trivial⟩, by decide⟩

def memoryClient : Client := { provider := Memory.provider 0 }

theorem handle_request_plain :
    let h : Handler := ⟨memoryClient, {}⟩
    let request (flag : String) := Handler.received ((around memoryClient).request flag .empty)
    h.handle (request "dark-mode") = h.asking "dark-mode" .empty ∧
      ((∃ other, other ≠ "50%" ∧ h.handle (request "50%") = h.asking other .empty) ∨
        ∃ response, h.handle (request "50%") = pure response) := by
  intro h request
  have hservice := around_of_settings memoryClient
  have hlead : h.options.pathLead.toList = (around memoryClient).pathLead :=
    around_pathLead memoryClient
  have hread := readContext_empty (around memoryClient)
  exact ⟨(handle_request hservice rfl hlead (by decide) (hread "dark-mode")).1 (by decide),
    (handle_request hservice rfl hlead (by decide) (hread "50%")).2 (by decide)⟩

/-- A store in which one flag is on. -/
def lit (flag : String) : Store :=
  let on : MemoryFlag := {
    defaultVariant := "on"
    variants := Table.empty.insert "on" (.bool true)
    enabled := true
    select := none
    metadata := Table.empty.insert "team" (.text "web") }
  { Store.fresh 0 with flags := fun _ => Table.empty.insert flag on }

/-- A key with a blank: the client is asked for the key as it is written in the path, and does not
find the flag that is there. -/
theorem handle_request_blank :
    let h : Handler := ⟨memoryClient, {}⟩
    let status (x : Eval HttpResponse) := (x.on (lit "dark mode")).1.map (·.status)
    h.handle (Handler.received ((around memoryClient).request "dark mode" .empty)) =
        h.asking "dark%20mode" .empty ∧
      status (h.asking "dark%20mode" .empty) = .ok 404 ∧
      status (h.asking "dark mode" .empty) = .ok 200 := by
  intro h status
  let service := around memoryClient
  have hurl : (service.evaluationUrl "dark mode").path.chars =
      h.options.pathLead.toList ++ "dark%20mode".toList := by decide +kernel
  have hpath : (Handler.received (service.request "dark mode" .empty)).path =
      h.options.pathLead.toList ++ "dark%20mode".toList :=
    (path_received (around_of_settings memoryClient) rfl "dark mode" .empty).trans hurl
  have hasked := Handler.handle_of_key (h := h) (Handler.flagKey?_of_lead hpath) (by decide)
    (readContext_empty service "dark mode")
  rw [String.ofList_toList] at hasked
  exact ⟨hasked, rfl, rfl⟩

end Service

end Remote

end FeatureFlags
