import FeatureFlags.Cache.Provider
import FeatureFlags.Proofs.Cache.Recency

/-!
# A cache is a list of results, the most recent first

The reference keeps results in one list in the order of their last use. It has neither ticks nor a
second list that has to stay in step. Every run of operations on a cache, at any times, shows what
the same run on the reference shows.
-/
namespace FeatureFlags

namespace Cache

/-- A result as the reference keeps it. -/
structure Kept where
  key : String
  detail : Resolution Json
  insertedAt : Nat

/-- Results from the most to the least recently used one. -/
abbrev Ranking := List Kept

namespace Ranking

/-- The results under other keys. -/
def without (kept : Ranking) (key : String) : Ranking := kept.filter (·.key ≠ key)

def get? (ttl : Nat) (key : String) (now : Nat) (kept : Ranking) :
    Option (Resolution Json) × Ranking :=
  match kept.find? (·.key = key) with
  | none => (none, kept)
  | some k =>
    if ttl ≤ now - k.insertedAt then (none, kept.without key)
    else (some k.detail, k :: kept.without key)

def insert (maxSize : Nat) (key : String) (detail : Resolution Json) (now : Nat)
    (kept : Ranking) : Ranking :=
  let all := ⟨key, detail, now⟩ :: kept.without key
  if maxSize < all.length then all.dropLast else all

end Ranking

/-- What is asked of a cache. -/
inductive Operation where
  | get (flag : String) (t : FlagType) (context : Context)
  | insert (flag : String) (t : FlagType) (context : Context) (detail : Resolution t.Value)
  | clear
  | size

/-- What the asker sees of it. -/
inductive Observation where
  | found (t : FlagType) (answer : Option (Resolution t.Value))
  | done
  | size (n : Nat)

namespace Operation

/-- The cache's own answer to an operation at a time, and the cache after it. -/
def onCache (digest : String → String) (now : Nat) : Operation → Cache → Observation × Cache
  | get flag t context, c =>
    let (detail, c) := c.get? (key digest flag t context) now
    (.found t (detail.bind (typed? t)), c)
  | insert flag t context detail, c =>
    (.done, c.insert (key digest flag t context) detail.toJson now)
  | clear, c => (.done, c.clear)
  | size, c => (.size c.size, c)

/-- The reference of an active cache. -/
def onRanking (digest : String → String) (ttl maxSize now : Nat) :
    Operation → Ranking → Observation × Ranking
  | get flag t context, kept =>
    let (detail, kept) := kept.get? ttl (key digest flag t context) now
    (.found t (detail.bind (typed? t)), kept)
  | insert flag t context detail, kept =>
    if detail.isError then (.done, kept)
    else (.done, kept.insert maxSize (key digest flag t context) detail.toJson now)
  | clear, _ => (.done, [])
  | size, kept => (.size kept.length, kept)

/-- The reference of a cache that is off: there is never anything in it. -/
def onNothing : Operation → Observation
  | get _ t _ => .found t none
  | insert .. => .done
  | clear => .done
  | size => .size 0

def onReference (digest : String → String) (settings : CacheSettings) (now : Nat)
    (operation : Operation) (kept : Ranking) : Observation × Ranking :=
  if settings.enabled = false ∨ settings.maxSize = 0 then (operation.onNothing, kept)
  else operation.onRanking digest settings.ttl settings.maxSize now kept

end Operation

/-- What is seen of operations, each at its time, one after the other. -/
def observed {σ : Type} (step : Nat → Operation → σ → Observation × σ) :
    σ → List (Nat × Operation) → List Observation
  | _, [] => []
  | s, (now, operation) :: rest =>
    (step now operation s).1 :: observed step (step now operation s).2 rest

/-- Rows as the reference has them. -/
def ranking (rows : List (String × Entry)) : Ranking :=
  (rows.map fun row => ⟨row.1, row.2.detail, row.2.insertedAt⟩).reverse

namespace Ranking

variable {c : Cache} {rows : List (String × Entry)}

@[simp]
theorem ranking_nil : ranking [] = [] := rfl

@[simp]
theorem length_ranking (rows : List (String × Entry)) : (ranking rows).length = rows.length := by
  simp [ranking]

theorem ranking_filter (rows : List (String × Entry)) (key : String) :
    ranking (rows.filter (·.1 ≠ key)) = (ranking rows).without key := by
  rw [ranking, without, ranking, List.filter_reverse, List.filter_map]
  rfl

theorem ranking_append (rows : List (String × Entry)) (row : String × Entry) :
    ranking (rows ++ [row]) = ⟨row.1, row.2.detail, row.2.insertedAt⟩ :: ranking rows := by
  simp [ranking]

theorem ranking_drop (rows : List (String × Entry)) (n : Nat) :
    ranking (rows.drop (rows.length - n)) = (ranking rows).take n := by
  rw [ranking, ranking, List.take_reverse, List.length_map, List.map_drop]

theorem find?_ranking_eq_none {key : String} (h : ∀ row ∈ rows, row.1 ≠ key) :
    (ranking rows).find? (·.key = key) = none := by
  rw [List.find?_eq_none]
  intro kept hkept
  obtain ⟨row, hrow, rfl⟩ := List.mem_map.1 (List.mem_reverse.1 hkept)
  simpa using h row hrow

theorem find?_ranking (h : c.Listed rows) {key : String} {e : Entry} (he : (key, e) ∈ rows) :
    (ranking rows).find? (·.key = key) = some ⟨key, e.detail, e.insertedAt⟩ := by
  rcases hfound : (ranking rows).find? (·.key = key) with _ | kept
  · have hmem : ⟨key, e.detail, e.insertedAt⟩ ∈ ranking rows :=
      List.mem_reverse.2 (List.mem_map.2 ⟨(key, e), he, rfl⟩)
    have hne := List.find?_eq_none.1 hfound _ hmem
    exact absurd (decide_eq_true rfl) hne
  · have hkept := List.mem_of_find?_eq_some hfound
    have hkey : kept.key = key := by simpa using List.find?_some hfound
    obtain ⟨row, hrow, rfl⟩ := List.mem_map.1 (List.mem_reverse.1 hkept)
    have hsame : row = (key, e) := List.inj_on_of_nodup_map h.keys_nodup hrow he hkey
    subst hsame
    exact hfound

end Ranking

/-- A reference keeps what is in the rows of a cache. -/
def Represents (c : Cache) (kept : Ranking) : Prop := ∃ rows, c.Sound rows ∧ ranking rows = kept

namespace Represents

open Ranking

variable {c : Cache} {kept : Ranking}

theorem ofSettings (settings : CacheSettings) : (ofSettings settings).Represents [] :=
  ⟨[], Sound.ofSettings settings, rfl⟩

theorem clear (c : Cache) : c.clear.Represents [] := ⟨[], Sound.clear c, rfl⟩

theorem size (h : c.Represents kept) : c.size = kept.length := by
  obtain ⟨rows, hrows, rfl⟩ := h
  rw [hrows.size, length_ranking]

theorem eq_nil (h : c.Represents kept) (hoff : c.settings.isActive = false) : kept = [] := by
  obtain ⟨rows, hrows, rfl⟩ := h
  rw [hrows.eq_nil hoff, ranking_nil]

theorem get? (h : c.Represents kept) (key : String) (now : Nat) :
    (c.get? key now).1 = (kept.get? c.settings.ttl key now).1 ∧
      (c.get? key now).2.Represents (kept.get? c.settings.ttl key now).2 := by
  obtain ⟨rows, hrows, rfl⟩ := h
  by_cases hkey : ∃ e, (key, e) ∈ rows
  · obtain ⟨e, he⟩ := hkey
    rw [Ranking.get?, find?_ranking hrows.toListed he]
    by_cases hold : c.settings.ttl ≤ now - e.insertedAt
    · rw [hrows.get?_expired he hold]
      simp only [hold, if_true, true_and]
      exact ⟨_, hrows.remove key, ranking_filter rows key⟩
    · obtain ⟨hanswer, hafter⟩ := hrows.get?_valid he hold
      simp only [hold, if_false]
      refine ⟨hanswer, _, hafter, ?_⟩
      rw [ranking_append, ranking_filter]
  · have habsent : ∀ row ∈ rows, row.1 ≠ key := fun row hrow heq => hkey ⟨row.2, heq ▸ hrow⟩
    rw [Ranking.get?, find?_ranking_eq_none habsent, hrows.get?_absent habsent]
    exact ⟨rfl, rows, hrows, rfl⟩

theorem insert (h : c.Represents kept) (hactive : c.settings.isActive = true) (key : String)
    {detail : Resolution Json} (hdetail : detail.isError = false) (now : Nat) :
    (c.insert key detail now).Represents (kept.insert c.settings.maxSize key detail now) := by
  obtain ⟨rows, hrows, rfl⟩ := h
  refine ⟨_, hrows.insert hactive key hdetail now, ?_⟩
  have hroom : (rows.filter (·.1 ≠ key)).length ≤ c.settings.maxSize := by
    have hall := hrows.room
    rw [hactive, if_pos rfl] at hall
    exact Nat.le_trans (List.length_filter_le _ _) hall
  have hlength : ((ranking rows).without key).length = (rows.filter (·.1 ≠ key)).length := by
    rw [← ranking_filter, length_ranking]
  rw [ranking_drop, ranking_append, ranking_filter, Ranking.insert]
  split
  next hfull =>
    rw [List.dropLast_eq_take]
    congr 1
    rw [List.length_cons] at hfull ⊢
    omega
  next hfits => exact List.take_of_length_le (Nat.not_lt.1 hfits)

end Represents

/-- Converting a value changes nothing about whether there is an error. -/
theorem isError_toJson {t : FlagType} (detail : Resolution t.Value) :
    detail.toJson.isError = detail.isError := rfl

theorem off_iff (settings : CacheSettings) :
    settings.enabled = false ∨ settings.maxSize = 0 ↔ settings.isActive = false := by
  rw [CacheSettings.isActive, Bool.and_eq_false_iff, decide_eq_false_iff_not, Nat.pos_iff_ne_zero,
    not_not]

namespace Operation

variable {digest : String → String} {c : Cache} {kept : Ranking}

@[simp]
theorem settings_onCache (now : Nat) (operation : Operation) (c : Cache) :
    (operation.onCache digest now c).2.settings = c.settings := by
  cases operation with
  | get flag t context => exact settings_get? c _ now
  | insert flag t context detail => exact settings_insert c _ _ now
  | clear => exact settings_clear c
  | size => rfl

/-- An active cache and its reference show the same and stay in step. -/
theorem onRanking_represents (h : c.Represents kept) (hactive : c.settings.isActive = true)
    (now : Nat) (operation : Operation) :
    let reference := operation.onRanking digest c.settings.ttl c.settings.maxSize now kept
    (operation.onCache digest now c).1 = reference.1 ∧
      (operation.onCache digest now c).2.Represents reference.2 := by
  cases operation with
  | get flag t context =>
    obtain ⟨hanswer, hafter⟩ := h.get? (key digest flag t context) now
    have hseen := congrArg (fun detail => Observation.found t (detail.bind (typed? t))) hanswer
    exact ⟨hseen, hafter⟩
  | insert flag t context detail =>
    rcases herror : detail.isError with _ | _
    · have hdetail : detail.toJson.isError = false := herror
      rw [onRanking, herror, if_neg Bool.false_ne_true]
      exact ⟨rfl, h.insert hactive _ hdetail now⟩
    · have hsame : c.insert (key digest flag t context) detail.toJson now = c := by
        rw [Cache.insert, isError_toJson, herror, Bool.not_true, Bool.and_false]
        rfl
      rw [onRanking, herror, if_pos rfl, onCache, hsame]
      exact ⟨rfl, h⟩
  | clear => exact ⟨rfl, Represents.clear c⟩
  | size => exact ⟨congrArg Observation.size h.size, h⟩

/-- A cache that is off shows nothing and keeps nothing. -/
theorem onNothing_represents (h : c.Represents kept) (hoff : c.settings.isActive = false)
    (now : Nat) (operation : Operation) :
    (operation.onCache digest now c).1 = operation.onNothing ∧
      (operation.onCache digest now c).2.Represents kept := by
  cases operation with
  | get flag t context =>
    have hmiss : c.get? (key digest flag t context) now = (none, c) := by
      rw [Cache.get?, hoff]
      rfl
    rw [onCache, hmiss]
    exact ⟨rfl, h⟩
  | insert flag t context detail =>
    have hsame : c.insert (key digest flag t context) detail.toJson now = c := by
      rw [Cache.insert, hoff, Bool.false_and]
      rfl
    rw [onCache, hsame]
    exact ⟨rfl, h⟩
  | clear =>
    rw [h.eq_nil hoff]
    exact ⟨rfl, Represents.clear c⟩
  | size =>
    have hempty : c.size = 0 := by rw [h.size, h.eq_nil hoff, List.length_nil]
    exact ⟨congrArg Observation.size hempty, h⟩

theorem onReference_represents (digest : String → String) (h : c.Represents kept) (now : Nat)
    (operation : Operation) :
    let reference := operation.onReference digest c.settings now kept
    (operation.onCache digest now c).1 = reference.1 ∧
      (operation.onCache digest now c).2.Represents reference.2 := by
  unfold onReference
  split
  next hoff => exact onNothing_represents h ((off_iff _).1 hoff) now operation
  next hon =>
    have hactive : c.settings.isActive = true := by
      rw [off_iff] at hon
      exact eq_true_of_ne_false hon
    exact onRanking_represents h hactive now operation

end Operation

theorem observed_of_represents (digest : String → String) {c : Cache} {kept : Ranking}
    (h : c.Represents kept) (operations : List (Nat × Operation)) :
    observed (Operation.onCache digest) c operations =
      observed (Operation.onReference digest c.settings) kept operations := by
  induction operations generalizing c kept with
  | nil => rfl
  | cons head rest ih =>
    obtain ⟨now, operation⟩ := head
    obtain ⟨hseen, hafter⟩ := Operation.onReference_represents digest h now operation
    rw [observed, observed, hseen, ih hafter, Operation.settings_onCache]

/-- Whatever is asked of a new cache and at whatever times, it answers as the reference does. -/
theorem observed_eq_reference (digest : String → String) (settings : CacheSettings)
    (operations : List (Nat × Operation)) :
    observed (Operation.onCache digest) (ofSettings settings) operations =
      observed (Operation.onReference digest settings) [] operations :=
  observed_of_represents digest (Represents.ofSettings settings) operations

end Cache

end FeatureFlags
