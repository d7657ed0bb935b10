import FeatureFlags.Cache.Basic
import FeatureFlags.Proofs.Table.Listing
import Mathlib.Data.List.Nodup

/-!
# Entries of a cache in the order of their last use

A cache keeps its entries by key and, apart from them, the keys by tick. Both are read off one list,
the entries from the least to the most recently used one (`Cache.Listed`). Each operation is an
operation on that list.
-/
namespace FeatureFlags

namespace Cache

/-- The place of an entry in the recency list. -/
def Entry.place (row : String × Entry) : Nat × String := (row.2.lastUsed, row.1)

/-- The rows are the entries of the cache, and its recency list is theirs. -/
structure Listed (c : Cache) (rows : List (String × Entry)) : Prop where
  entries : rows.Perm c.entries.entries
  ascending : rows.Pairwise fun a b => a.2.lastUsed < b.2.lastUsed
  recency : c.recency = rows.map Entry.place
  past : ∀ row ∈ rows, row.2.lastUsed ≤ c.tick

@[simp]
theorem tick_remove (c : Cache) (key : String) : (c.remove key).tick = c.tick := by
  unfold remove
  split <;> rfl

@[simp]
theorem settings_remove (c : Cache) (key : String) : (c.remove key).settings = c.settings := by
  unfold remove
  split <;> rfl

@[simp]
theorem settings_clear (c : Cache) : c.clear.settings = c.settings := rfl

@[simp]
theorem settings_get? (c : Cache) (key : String) (now : Nat) :
    (c.get? key now).2.settings = c.settings := by
  unfold get?
  split
  · split
    · rfl
    · split
      · exact settings_remove c key
      · rfl
  · rfl

@[simp]
theorem settings_insert (c : Cache) (key : String) (detail : Resolution Json) (now : Nat) :
    (c.insert key detail now).settings = c.settings := by
  unfold insert
  split
  · exact settings_remove c key
  · rfl

/-- The cache with a new result, before results are dropped for want of room. -/
def added (c : Cache) (key : String) (detail : Resolution Json) (now : Nat) : Cache :=
  { c with
    entries := (c.remove key).entries.insert key ⟨detail, now, c.tick + 1⟩
    recency := (c.remove key).recency ++ [(c.tick + 1, key)]
    tick := c.tick + 1 }

theorem insert_eq (c : Cache) (hactive : c.settings.isActive = true) (key : String)
    {detail : Resolution Json} (hdetail : detail.isError = false) (now : Nat) :
    c.insert key detail now =
      let kept := shrink c.settings.maxSize (c.added key detail now).recency
        (c.added key detail now).entries
      { c.added key detail now with recency := kept.1, entries := kept.2 } := by
  simp [insert, added, hactive, hdetail]

namespace Listed

variable {c : Cache} {rows : List (String × Entry)}

theorem ofSettings (settings : CacheSettings) : Listed (ofSettings settings) [] :=
  ⟨List.Perm.nil, List.Pairwise.nil, rfl, fun _ h => absurd h List.not_mem_nil⟩

theorem clear (c : Cache) : Listed c.clear [] :=
  ⟨List.Perm.nil, List.Pairwise.nil, rfl, fun _ h => absurd h List.not_mem_nil⟩

theorem size (h : c.Listed rows) : c.size = rows.length := h.entries.length_eq.symm

theorem keys_nodup (h : c.Listed rows) : (rows.map (·.1)).Nodup := Table.names_nodup h.entries

theorem ticks_nodup (h : c.Listed rows) : (rows.map (·.2.lastUsed)).Nodup :=
  List.pairwise_map.2 (h.ascending.imp fun hlt => Nat.ne_of_lt hlt)

/-- What a key leads to stands in its row. -/
theorem get?_eq_some_iff (h : c.Listed rows) (key : String) (e : Entry) :
    c.entries.get? key = some e ↔ (key, e) ∈ rows := by
  rw [h.entries.mem_iff]
  exact Entries.get?_eq_some_iff c.entries.ascending.names_distinct key e

theorem get?_eq_none_iff (h : c.Listed rows) (key : String) :
    c.entries.get? key = none ↔ ∀ row ∈ rows, row.1 ≠ key := by
  constructor
  · intro hnone row hrow hkey
    have hsome : c.entries.get? key = some row.2 := (h.get?_eq_some_iff key row.2).2 (hkey ▸ hrow)
    rw [hnone] at hsome
    cases hsome
  · intro hne
    rcases hfound : c.entries.get? key with _ | e
    · rfl
    · exact absurd rfl (hne _ ((h.get?_eq_some_iff key e).1 hfound))

/-- Different keys were last used at different ticks. -/
theorem key_eq_iff (h : c.Listed rows) {a b : String × Entry} (ha : a ∈ rows) (hb : b ∈ rows) :
    a.1 = b.1 ↔ a.2.lastUsed = b.2.lastUsed := by
  constructor
  · intro hkey
    rw [List.inj_on_of_nodup_map h.keys_nodup ha hb hkey]
  · intro htick
    rw [List.inj_on_of_nodup_map h.ticks_nodup ha hb htick]

/-- To take the tick of a key out of the recency list is to take out the row of the key. -/
theorem recency_filter (h : c.Listed rows) {key : String} {e : Entry} (he : (key, e) ∈ rows) :
    c.recency.filter (·.1 ≠ e.lastUsed) = (rows.filter (·.1 ≠ key)).map Entry.place := by
  rw [h.recency, List.filter_map]
  congr 1
  refine List.filter_congr fun row hrow => ?_
  have hiff : row.1 = key ↔ row.2.lastUsed = e.lastUsed := h.key_eq_iff hrow he
  exact decide_eq_decide.2 (not_congr hiff.symm)

/-- Without its row, a key is not in the cache and all other rows stay as they are. -/
theorem erased (h : c.Listed rows) (key : String) :
    Listed { c with
      entries := c.entries.erase key
      recency := (rows.filter (·.1 ≠ key)).map Entry.place } (rows.filter (·.1 ≠ key)) where
  entries := h.entries.filter _
  ascending := h.ascending.filter _
  recency := rfl
  past row hrow := h.past row (List.mem_of_mem_filter hrow)

theorem remove (h : c.Listed rows) (key : String) :
    (c.remove key).Listed (rows.filter (·.1 ≠ key)) := by
  unfold Cache.remove
  split
  next hnone =>
    have hall : ∀ row ∈ rows, row.1 ≠ key := (h.get?_eq_none_iff key).1 hnone
    rw [List.filter_eq_self.2 fun row hrow => by simpa using hall row hrow]
    exact h
  next e hsome =>
    rw [h.recency_filter ((h.get?_eq_some_iff key e).1 hsome)]
    exact h.erased key

/-- An entry used at the next tick becomes the last row. -/
theorem used (h : c.Listed rows) (key : String) (e : Entry) (he : e.lastUsed = c.tick + 1) :
    Listed { c with
      entries := c.entries.insert key e
      recency := (rows.filter (·.1 ≠ key)).map Entry.place ++ [(c.tick + 1, key)]
      tick := c.tick + 1 } (rows.filter (·.1 ≠ key) ++ [(key, e)]) where
  entries := by
    have hkept : (rows.filter (·.1 ≠ key)).Perm (c.entries.entries.filter (·.1 ≠ key)) :=
      h.entries.filter _
    exact (List.perm_append_singleton _ _).trans
      ((hkept.cons _).trans (Entries.insert_perm c.entries.ascending key e).symm)
  ascending := by
    refine List.pairwise_append.2 ⟨h.ascending.filter _, List.pairwise_singleton _ _, ?_⟩
    intro row hrow last hlast
    have hpast : row.2.lastUsed ≤ c.tick := h.past row (List.mem_of_mem_filter hrow)
    rw [List.mem_singleton.1 hlast, he]
    omega
  recency := by simp [Entry.place, he]
  past row hrow := by
    rcases List.mem_append.1 hrow with hrow | hlast
    · exact Nat.le_succ_of_le (h.past row (List.mem_of_mem_filter hrow))
    · rw [List.mem_singleton.1 hlast]
      exact Nat.le_of_eq he

theorem added (h : c.Listed rows) (key : String) (detail : Resolution Json) (now : Nat) :
    (c.added key detail now).Listed
      (rows.filter (·.1 ≠ key) ++ [(key, ⟨detail, now, c.tick + 1⟩)]) := by
  have hkept := h.remove key
  have hused := hkept.used key ⟨detail, now, c.tick + 1⟩ (by rw [tick_remove])
  have hfilter : (rows.filter (·.1 ≠ key)).filter (·.1 ≠ key) = rows.filter (·.1 ≠ key) := by simp
  rw [hfilter, ← hkept.recency, tick_remove, settings_remove] at hused
  exact hused

/-- Dropping entries for want of room drops the first rows. -/
theorem shrink_eq (room : Nat) (rows : List (String × Entry)) (entries : Table Entry)
    (h : rows.Perm entries.entries) :
    (shrink room (rows.map Entry.place) entries).1 =
        (rows.drop (rows.length - room)).map Entry.place ∧
      (rows.drop (rows.length - room)).Perm
        (shrink room (rows.map Entry.place) entries).2.entries := by
  induction rows generalizing entries with
  | nil => exact ⟨by simp [shrink], by simpa [shrink] using h⟩
  | cons row rest ih =>
    have hsize : entries.size = rest.length + 1 := h.length_eq.symm
    rw [List.map_cons, shrink, hsize, List.length_cons]
    split
    next hfull =>
      rw [Nat.succ_sub (Nat.le_of_lt_succ hfull), List.drop_succ_cons]
      exact ih _ (Table.perm_erase h)
    next hroom =>
      rw [Nat.sub_eq_zero_of_le (Nat.not_lt.1 hroom)]
      exact ⟨rfl, h⟩

theorem shrunk (h : c.Listed rows) (room : Nat) :
    Listed { c with
      recency := (shrink room c.recency c.entries).1
      entries := (shrink room c.recency c.entries).2 } (rows.drop (rows.length - room)) := by
  have hshrink := shrink_eq room rows c.entries h.entries
  rw [← h.recency] at hshrink
  exact {
    entries := hshrink.2
    ascending := h.ascending.drop
    recency := hshrink.1
    past := fun row hrow => h.past row (List.mem_of_mem_drop hrow) }

end Listed

/-- What a cache keeps at any time: no more than it has room for, and no result with an error. A
disabled cache has no room. -/
structure Sound (c : Cache) (rows : List (String × Entry)) : Prop extends Listed c rows where
  room : rows.length ≤ if c.settings.isActive then c.settings.maxSize else 0
  valid : ∀ row ∈ rows, row.2.detail.isError = false

namespace Sound

variable {c : Cache} {rows : List (String × Entry)}

theorem ofSettings (settings : CacheSettings) : Sound (ofSettings settings) [] :=
  ⟨Listed.ofSettings settings, Nat.zero_le _, fun _ h => absurd h List.not_mem_nil⟩

theorem clear (c : Cache) : Sound c.clear [] :=
  ⟨Listed.clear c, Nat.zero_le _, fun _ h => absurd h List.not_mem_nil⟩

theorem eq_nil (h : c.Sound rows) (hoff : c.settings.isActive = false) : rows = [] := by
  have hroom := h.room
  rw [hoff] at hroom
  exact List.eq_nil_of_length_eq_zero (Nat.le_zero.1 hroom)

theorem remove (h : c.Sound rows) (key : String) :
    (c.remove key).Sound (rows.filter (·.1 ≠ key)) where
  toListed := h.toListed.remove key
  room := by
    rw [settings_remove]
    exact Nat.le_trans (List.length_filter_le _ _) h.room
  valid row hrow := h.valid row (List.mem_of_mem_filter hrow)

theorem get?_absent (h : c.Sound rows) {key : String} (hkey : ∀ row ∈ rows, row.1 ≠ key)
    (now : Nat) : c.get? key now = (none, c) := by
  simp [get?, (h.get?_eq_none_iff key).2 hkey]

/-- What an active cache holds under a key. -/
theorem found (h : c.Sound rows) {key : String} {e : Entry} (he : (key, e) ∈ rows) :
    c.settings.isActive = true ∧ c.entries.get? key = some e := by
  refine ⟨?_, (h.get?_eq_some_iff key e).2 he⟩
  by_contra hoff
  rw [h.eq_nil (by simpa using hoff)] at he
  exact absurd he List.not_mem_nil

theorem get?_expired (h : c.Sound rows) {key : String} {e : Entry} (he : (key, e) ∈ rows)
    {now : Nat} (hold : c.settings.ttl ≤ now - e.insertedAt) :
    c.get? key now = (none, c.remove key) := by
  obtain ⟨hactive, hfound⟩ := h.found he
  simp [get?, hactive, hfound, hold]

/-- A hit makes the row of the key the last one; its time of insertion stays. -/
theorem get?_valid (h : c.Sound rows) {key : String} {e : Entry} (he : (key, e) ∈ rows)
    {now : Nat} (hnew : ¬c.settings.ttl ≤ now - e.insertedAt) :
    (c.get? key now).1 = some e.detail ∧
      (c.get? key now).2.Sound
        (rows.filter (·.1 ≠ key) ++ [(key, { e with lastUsed := c.tick + 1 })]) := by
  obtain ⟨hactive, hfound⟩ := h.found he
  have hfilter := h.recency_filter he
  have hused := h.used key { e with lastUsed := c.tick + 1 } rfl
  have hlen : (rows.filter (·.1 ≠ key)).length < rows.length :=
    List.length_filter_lt_length_iff_exists.2 ⟨_, he, by simp⟩
  simp only [get?, hactive, hfound, hnew, if_true, if_false, hfilter, true_and]
  refine ⟨hused, ?_, ?_⟩
  · have hroom := h.room
    simp only [hactive, if_true, List.length_append, List.length_singleton] at hroom ⊢
    omega
  · intro row hrow
    rcases List.mem_append.1 hrow with hrow | hlast
    · exact h.valid row (List.mem_of_mem_filter hrow)
    · rw [List.mem_singleton.1 hlast]
      exact h.valid (key, e) he

/-- A new result becomes the last row. The first rows go if there is no room for all. -/
theorem insert (h : c.Sound rows) (hactive : c.settings.isActive = true) (key : String)
    {detail : Resolution Json} (hdetail : detail.isError = false) (now : Nat) :
    (c.insert key detail now).Sound <|
      let all := rows.filter (·.1 ≠ key) ++ [(key, ⟨detail, now, c.tick + 1⟩)]
      all.drop (all.length - c.settings.maxSize) := by
  have hshrunk := (h.added key detail now).shrunk c.settings.maxSize
  rw [← insert_eq c hactive key hdetail now] at hshrunk
  refine ⟨hshrunk, ?_, ?_⟩
  · rw [settings_insert, hactive, if_pos rfl, List.length_drop]
    omega
  · intro row hrow
    rcases List.mem_append.1 (List.mem_of_mem_drop hrow) with hrow | hlast
    · exact h.valid row (List.mem_of_mem_filter hrow)
    · rw [List.mem_singleton.1 hlast]
      exact hdetail

end Sound

end Cache

end FeatureFlags
