import FeatureFlags.Proofs.Remote.Key
import FeatureFlags.Proofs.Url.Decoded

/-!
# Addresses of flags

A service is asked for a flag at the URL that has the key of the flag as its last segment. The
segment decodes to the key as long as every character of the key counts and the key names no
directory; what any other key leaves in the path is its `Trace`. Two keys have one URL just if they
have one trace (`evaluationUrl_addresses`).
-/
namespace FeatureFlags.Remote

open Url (decoded? isIgnored pushSegment)

variable {special : Bool} {flag : String} {front : List (List Char)}

/-! ## Traces -/

/-- What a key leaves behind the segments of a path: nothing, an empty segment one level up, or a
segment that decodes to a text. -/
inductive Trace where
  | nothing
  | parent
  | segment (text : List Char)
deriving DecidableEq

/-- The characters of a key that count. -/
def counted (flag : String) : List Char := flag.toList.filter fun c => !isIgnored c

def trace (flag : String) : Trace :=
  if flag = "." ∨ flag = ".." then .nothing
  else if counted flag = ['.', '.'] then .parent
  else if counted flag = ['.'] then .segment []
  else .segment (counted flag)

/-- The path behind which a key has left its trace. -/
def Trace.behind (special : Bool) (front : List (List Char)) : Trace → List (List Char)
  | nothing => front
  | parent => front.dropLast ++ [[]]
  | segment text => front ++ [(Url.Part.segment special).encode text]

/-- Keys that stand in a path as a whole. -/
structure IsWhole (flag : String) : Prop where
  ne_dot : flag ≠ "."
  ne_doubleDot : flag ≠ ".."
  counts : ∀ c ∈ flag.toList, isIgnored c = false

theorem trace_eq_iff : trace flag = .segment flag.toList ↔ IsWhole flag := by
  constructor
  · intro h
    rw [trace] at h
    split at h
    · cases h
    next hdots =>
      obtain ⟨hdot, hdouble⟩ := not_or.1 hdots
      refine ⟨hdot, hdouble, ?_⟩
      split at h
      · cases h
      · split at h
        next hcounted =>
          -- an empty key has no full stop
          have hempty : flag.toList = [] := (Trace.segment.inj h).symm
          rw [counted, hempty] at hcounted
          cases hcounted
        next =>
          have hkept := List.filter_eq_self.1 (Trace.segment.inj h)
          simpa using hkept
  · intro h
    have hcounted : counted flag = flag.toList :=
      List.filter_eq_self.2 fun c hc => by rw [h.counts c hc, Bool.not_false]
    rw [trace, if_neg (not_or.2 ⟨h.ne_dot, h.ne_doubleDot⟩), hcounted,
      if_neg (Url.toList_ne h.ne_doubleDot), if_neg (Url.toList_ne h.ne_dot)]

instance (flag : String) : Decidable (IsWhole flag) := decidable_of_iff _ trace_eq_iff

theorem pushSegment_eq_behind (hne : front ≠ [[]]) (hshorten : Url.shorten front = front.dropLast)
    (special : Bool) (flag : String) :
    pushSegment special front flag = (trace flag).behind special front := by
  have hpercent := Url.encodes_percent special
  have hstop := Url.keeps_dot special
  by_cases hdots : flag = "." ∨ flag = ".."
  · rw [pushSegment, trace, if_pos hdots, if_pos hdots]
    rfl
  · have hpush : pushSegment special front flag =
        Url.addSegment true front ((Url.Part.segment special).encode (counted flag)) := by
      rw [pushSegment, if_neg hdots]
      exact congrArg (Url.addSegment true · _) (if_neg hne)
    -- percent signs are encoded, so that only full stops are written as the name of a directory
    rw [hpush, trace, if_neg hdots, Url.addSegment]
    simp only [Url.isDoubleDot_encode hpercent hstop, Url.isDot_encode hpercent hstop, hshorten]
    split
    · rfl
    · split <;> rfl

/-- The traces of keys can be told apart behind a segment that is not empty. -/
theorem behind_inj {last : List Char} (hlast : last ≠ []) {a b : Trace}
    (h : a.behind special (front ++ [last]) = b.behind special (front ++ [last])) : a = b := by
  -- a segment makes the path longer, and the parent leaves another end than nothing does
  have hlength := congrArg List.length h
  have hend := congrArg List.getLast? h
  cases a <;> cases b
  all_goals
    simp only [Trace.behind, List.dropLast_concat, List.length_append, List.length_singleton,
      List.getLast?_append, List.getLast?_singleton, Option.some_or, Option.some.injEq]
      at hlength hend
  case nothing.nothing => rfl
  case parent.parent => rfl
  case nothing.parent => exact absurd hend hlast
  case parent.nothing => exact absurd hend.symm hlast
  case segment.segment a b => rw [Url.encode_inj (Url.encodes_percent special) hend]
  all_goals omega

theorem behind_open (hfront : ∀ x ∈ front, Url.Open x) (t : Trace) :
    ∀ x ∈ t.behind special front, Url.Open x := by
  cases t with
  | nothing => exact hfront
  | parent =>
    refine Url.open_snoc (fun x hx => hfront x ?_) Url.open_nil
    exact (List.dropLast_sublist front).subset hx
  | segment text => exact Url.open_snoc hfront (Url.open_encode_segment special text)

namespace Service

variable {service : Service} {owner : Nat} {settings : RemoteSettings} {transport : Transport}

/-! ## Paths -/

theorem flagsPath_open (h : service.base.WellFormed) : ∀ x ∈ service.flagsPath, Url.Open x := by
  have hlead : ∀ x ∈ evaluationPath.map String.toList, Url.Open x := by decide
  rw [flagsPath]
  split
  · exact fun _ h => absurd h List.not_mem_nil
  next segments hpath =>
    intro x hx
    rcases List.mem_append.1 hx with hx | hx
    · exact h.path segments hpath x (Url.stem_subset segments hx)
    · exact hlead x hx

/-- The last segments of a URL are those of the flag. -/
theorem evaluationUrl_eq (hbase : service.base.isBase = true) (flag : String) :
    service.evaluationUrl flag = { service.base with
      path := .segments ((trace flag).behind service.base.isSpecial service.flagsPath) } := by
  obtain ⟨front, hflags⟩ := flagsPath_eq hbase
  have hne : service.flagsPath ≠ [[]] := by
    intro heq
    rw [hflags] at heq
    have hlast := congrArg List.getLast? heq
    simp at hlast
  have hshorten : Url.shorten service.flagsPath = service.flagsPath.dropLast := by
    have hdrive : Url.startsWithDrive "flags".toList = false := by decide
    rw [hflags, Url.shorten, List.getLast?_append, List.getLast?_singleton]
    exact if_neg (Bool.eq_false_iff.1 hdrive)
  rw [evaluationUrl, extend_evaluationPath hbase, ← pushSegment_eq_behind hne hshorten]
  rfl

/-- A key has a segment of its own, which decodes to it, exactly if it stands in the path as a
whole. -/
theorem isWhole_iff_segment (hbase : service.base.isBase = true) (flag : String) :
    IsWhole flag ↔ ∃ segment, (service.evaluationUrl flag).path =
      .segments (service.flagsPath ++ [segment]) ∧ decoded? segment = some flag := by
  have hpercent := Url.encodes_percent service.base.isSpecial
  rw [evaluationUrl_eq hbase, ← trace_eq_iff]
  constructor
  · intro htrace
    refine ⟨(Url.Part.segment service.base.isSpecial).encode flag.toList, ?_, ?_⟩
    · rw [htrace]
      rfl
    · rw [Url.decoded?_encode hpercent, String.ofList_toList]
  · rintro ⟨segment, hpath, hdecoded⟩
    have hpath := Url.Path.segments.inj hpath
    have hlength := congrArg List.length hpath
    cases htrace : trace flag with
    | nothing =>
      rw [htrace, Trace.behind, List.length_append, List.length_singleton] at hlength
      omega
    | parent =>
      obtain ⟨front, hflags⟩ := flagsPath_eq hbase
      rw [htrace, Trace.behind, hflags, List.dropLast_concat] at hlength
      simp only [List.length_append, List.length_singleton] at hlength
      omega
    | segment text =>
      rw [htrace, Trace.behind] at hpath
      obtain rfl := List.singleton_inj.1 (List.append_cancel_left hpath)
      rw [Url.decoded?_encode hpercent] at hdecoded
      rw [← Option.some.inj hdecoded, String.toList_ofList]

theorem evaluationUrl_text_eq_iff (hwell : service.base.WellFormed)
    (hbase : service.base.isBase = true) (a b : String) :
    (service.evaluationUrl a).text = (service.evaluationUrl b).text ↔ trace a = trace b := by
  have hopen := flagsPath_open hwell
  rw [evaluationUrl_eq hbase, evaluationUrl_eq hbase,
    Url.text_segments_eq_iff (behind_open hopen _) (behind_open hopen _)]
  obtain ⟨front, hflags⟩ := flagsPath_eq hbase
  rw [hflags]
  exact ⟨behind_inj (by simp), congrArg _⟩

/-- The addresses of flags: the URL of a key is the base URL with the trace of the key behind the
path to all flags. A key that stands there as a whole has a segment of its own, which decodes to it,
and no other key does. Keys have one URL just if they have one trace, so that keys that stand there
as a whole never share one. -/
theorem evaluationUrl_addresses (hservice : ofSettings owner settings transport = .ok service) :
    (∀ flag, service.evaluationUrl flag = { service.base with
      path := .segments ((trace flag).behind service.base.isSpecial service.flagsPath) }) ∧
    (∀ flag, IsWhole flag ↔ ∃ segment, (service.evaluationUrl flag).path =
      .segments (service.flagsPath ++ [segment]) ∧ decoded? segment = some flag) ∧
    (∀ a b, (service.evaluationUrl a).text = (service.evaluationUrl b).text ↔ trace a = trace b) ∧
    ∀ a b, IsWhole a → IsWhole b →
      (service.evaluationUrl a).text = (service.evaluationUrl b).text → a = b := by
  obtain ⟨hwell, hbase⟩ := base_of_settings hservice
  refine ⟨evaluationUrl_eq hbase, isWhole_iff_segment hbase, evaluationUrl_text_eq_iff hwell hbase,
    fun a b ha hb h => ?_⟩
  have htraces := (evaluationUrl_text_eq_iff hwell hbase a b).1 h
  rw [trace_eq_iff.2 ha, trace_eq_iff.2 hb] at htraces
  exact String.toList_injective (Trace.segment.inj htraces)

theorem evaluationUrl_addresses_slash :
    let service := around memoryClient
    (service.evaluationUrl "a/b").text = "http://[::1]:8016/ofrep/v1/evaluate/flags/a%2Fb" ∧
    (∃ segment, (service.evaluationUrl "a/b").path = .segments (service.flagsPath ++ [segment]) ∧
      decoded? segment = some "a/b") ∧
    (service.evaluationUrl "a/b").text ≠ (service.evaluationUrl "a%2Fb").text := by
  intro service
  obtain ⟨-, hsegment, -, hdistinct⟩ := evaluationUrl_addresses (around_of_settings memoryClient)
  have hslash : IsWhole "a/b" := by decide
  have hescape : IsWhole "a%2Fb" := by decide
  refine ⟨by decide +kernel, (hsegment _).1 hslash, fun h => ?_⟩
  exact absurd (hdistinct _ _ hslash hescape h) (by decide)

/-- Tabs do not count, so that two keys share a URL, and a key that names a directory has none of
its own. -/
theorem evaluationUrl_shared :
    let service := around memoryClient
    "dark\tmode" ≠ "darkmode" ∧
    (service.evaluationUrl "dark\tmode").text = (service.evaluationUrl "darkmode").text ∧
    (service.evaluationUrl ".").text = "http://[::1]:8016/ofrep/v1/evaluate/flags" := by
  decide +kernel

end Service

end FeatureFlags.Remote
