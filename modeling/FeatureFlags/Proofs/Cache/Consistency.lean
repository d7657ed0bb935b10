import FeatureFlags.Proofs.Cache.Ranking

/-!
# Entries and recency stay in step

A cache keeps the tick of an entry's last use in two places, with the entry and in the recency list.
Main statement: whatever was looked up, put in and cleared before, the two places say the same, and
the loop that makes room for a new result finds in every round the entry that it drops
(`consistent_after`). It has one round at most, and not for the new result.
-/
namespace FeatureFlags

namespace Cache

/-- The cache behind operations, each at its time, one after the other. -/
def after (digest : String → String) (c : Cache) (operations : List (Nat × Operation)) : Cache :=
  operations.foldl (fun c o => (o.2.onCache digest o.1 c).2) c

/-- A key stands in the recency list at the tick of the last use of its entry and nowhere else. -/
structure Consistent (c : Cache) : Prop where
  linked : ∀ tick key, (tick, key) ∈ c.recency ↔
    ∃ e, c.entries.get? key = some e ∧ e.lastUsed = tick
  ascending : c.recency.Pairwise fun use next => use.1 < next.1
  balanced : c.recency.length = c.size
  apart : ∀ key key' e e', c.entries.get? key = some e → c.entries.get? key' = some e' →
    e.lastUsed = e'.lastUsed → key = key'
  past : ∀ tick key, (tick, key) ∈ c.recency → tick ≤ c.tick
  valid : ∀ key e, c.entries.get? key = some e → e.detail.error = none
  room : c.size ≤ c.settings.maxSize

/-- The rounds of the loop that makes room: each one takes the least recent use from the list and
finds an entry under its key, which it drops. -/
inductive Dropping (room : Nat) : List (Nat × String) → Table Entry → List String →
    List (Nat × String) × Table Entry → Prop where
  | done {recency : List (Nat × String)} {entries : Table Entry} (h : entries.size ≤ room) :
    Dropping room recency entries [] (recency, entries)
  | round {tick : Nat} {key : String} {recency : List (Nat × String)} {entries : Table Entry}
    {dropped : List String} {kept : List (Nat × String) × Table Entry}
    (h : room < entries.size) (present : ∃ e, entries.get? key = some e ∧ e.lastUsed = tick)
    (rest : Dropping room recency (entries.erase key) dropped kept) :
    Dropping room ((tick, key) :: recency) entries (key :: dropped) kept

/-! ## The two places -/

theorem Sound.consistent {c : Cache} {rows : List (String × Entry)} (h : c.Sound rows) :
    c.Consistent where
  linked tick key := by
    rw [h.recency, List.mem_map]
    constructor
    · rintro ⟨row, hrow, hplace⟩
      cases hplace
      exact ⟨row.2, (h.get?_eq_some_iff row.1 row.2).2 hrow, rfl⟩
    · rintro ⟨e, he, rfl⟩
      exact ⟨(key, e), (h.get?_eq_some_iff key e).1 he, rfl⟩
  ascending := by
    rw [h.recency]
    exact List.pairwise_map.2 h.ascending
  balanced := by rw [h.recency, List.length_map, h.size]
  apart key key' e e' he he' htick :=
    (h.key_eq_iff ((h.get?_eq_some_iff key e).1 he) ((h.get?_eq_some_iff key' e').1 he')).2 htick
  past tick key huse := by
    rw [h.recency] at huse
    obtain ⟨row, hrow, hplace⟩ := List.mem_map.1 huse
    cases hplace
    exact h.past row hrow
  valid key e he := by
    have hvalid := h.valid (key, e) ((h.get?_eq_some_iff key e).1 he)
    simpa [Resolution.isError] using hvalid
  room := by
    have hroom := h.room
    rw [h.size]
    split at hroom <;> omega

theorem Sound.after {c : Cache} {rows : List (String × Entry)} (h : c.Sound rows)
    (digest : String → String) (operations : List (Nat × Operation)) :
    ∃ rows', (c.after digest operations).Sound rows' := by
  induction operations generalizing c rows with
  | nil => exact ⟨rows, h⟩
  | cons head rest ih =>
    obtain ⟨now, operation⟩ := head
    obtain ⟨-, rows', h', -⟩ := Operation.onReference_represents digest ⟨rows, h, rfl⟩ now operation
    exact ih h'

/-! ## The loop that makes room -/

/-- The loop drops the first rows, and each of them is there when its turn comes. -/
theorem dropping_shrink (room : Nat) (rows : List (String × Entry)) (entries : Table Entry)
    (h : rows.Perm entries.entries) :
    Dropping room (rows.map Entry.place) entries ((rows.take (rows.length - room)).map (·.1))
      (shrink room (rows.map Entry.place) entries) := by
  induction rows generalizing entries with
  | nil =>
    have hempty : entries.size = 0 := h.length_eq.symm
    have hfits : entries.size ≤ room := by omega
    rw [List.take_nil]
    exact .done hfits
  | cons row rest ih =>
    have hsize : entries.size = rest.length + 1 := h.length_eq.symm
    rw [List.map_cons, shrink, List.length_cons]
    split
    next hfull =>
      have hfound : entries.get? row.1 = some row.2 :=
        (Entries.get?_eq_some_iff entries.ascending.names_distinct row.1 row.2).2
          (h.mem_iff.1 List.mem_cons_self)
      rw [Nat.succ_sub (by omega), List.take_succ_cons, List.map_cons]
      exact .round hfull ⟨row.2, hfound, rfl⟩ (ih _ (Table.perm_erase h))
    next hroom =>
      have hfits : entries.size ≤ room := Nat.not_lt.1 hroom
      rw [Nat.sub_eq_zero_of_le (hsize ▸ hfits)]
      exact .done hfits

/-- Beside what the loop dropped, all entries are left as they were. -/
theorem Dropping.get? {room : Nat} {recency : List (Nat × String)} {entries : Table Entry}
    {dropped : List String} {kept : List (Nat × String) × Table Entry}
    (h : Dropping room recency entries dropped kept) (key : String) :
    kept.2.get? key = if key ∈ dropped then none else entries.get? key := by
  induction h with
  | done => simp
  | @round _ head _ entries dropped _ _ _ _ ih =>
    rw [ih, Table.get?_erase]
    by_cases hhead : key = head <;> simp [hhead]

theorem get?_added (c : Cache) (key : String) (detail : Resolution Json) (now : Nat)
    (other : String) : (c.added key detail now).entries.get? other =
      if other = key then some ⟨detail, now, c.tick + 1⟩ else c.entries.get? other := by
  rw [added, Table.get?_insert]
  split
  next => rfl
  next hne =>
    rw [remove]
    split
    next => rfl
    next => rw [Table.get?_erase, if_neg hne]

/-- Of the entries of an active cache with a new one in front, at most one has to go, and it is not
the new one. -/
theorem Sound.dropping_added {c : Cache} {rows : List (String × Entry)} (h : c.Sound rows)
    (hactive : c.settings.isActive = true) (key : String) (detail : Resolution Json) (now : Nat) :
    let all := c.added key detail now
    ∃ dropped, Dropping c.settings.maxSize all.recency all.entries dropped
        (shrink c.settings.maxSize all.recency all.entries) ∧
      dropped.length ≤ 1 ∧ key ∉ dropped := by
  intro all
  have hlisted := h.added key detail now
  have hlength : (rows.filter (·.1 ≠ key)).length ≤ c.settings.maxSize := by
    have hroom := h.room
    rw [hactive, if_pos rfl] at hroom
    exact Nat.le_trans (List.length_filter_le _ _) hroom
  have hpos : 0 < c.settings.maxSize := by simp_all [CacheSettings.isActive]
  have hdropping := dropping_shrink c.settings.maxSize _ all.entries hlisted.entries
  rw [← hlisted.recency] at hdropping
  refine ⟨_, hdropping, ?_, ?_⟩
  · simp only [List.length_map, List.length_take, List.length_append, List.length_singleton]
    omega
  · have hfits : (rows.filter (·.1 ≠ key)).length + 1 - c.settings.maxSize ≤
        (rows.filter (·.1 ≠ key)).length := by omega
    rw [List.length_append, List.length_singleton, List.take_append_of_le_length hfits]
    intro hmem
    obtain ⟨row, hrow, hkey⟩ := List.mem_map.1 hmem
    have hother := List.of_mem_filter (List.mem_of_mem_take hrow)
    simp [hkey] at hother

/-- Whatever was done with a cache, its entries and its recency list say the same. Then an insertion
changes nothing, if the cache is off or the result has an error; or the result is put in, and the
loop drops at most one entry, which it finds in its place and which is not the new one, while all
other entries stay as they are. -/
theorem consistent_after (digest : String → String) (settings : CacheSettings)
    (operations : List (Nat × Operation)) :
    let c := (ofSettings settings).after digest operations
    c.Consistent ∧ ∀ key detail now,
      (c.settings.isActive = false ∨ detail.isError = true → c.insert key detail now = c) ∧
      (c.settings.isActive = true → detail.isError = false →
        let all := c.added key detail now
        ∃ dropped kept, Dropping c.settings.maxSize all.recency all.entries dropped kept ∧
          c.insert key detail now = { all with recency := kept.1, entries := kept.2 } ∧
          dropped.length ≤ 1 ∧ key ∉ dropped ∧
          ∀ k, (c.insert key detail now).entries.get? k =
            if k = key then some ⟨detail, now, c.tick + 1⟩
            else if k ∈ dropped then none else c.entries.get? k) := by
  intro c
  obtain ⟨rows, hsound⟩ := (Sound.ofSettings settings).after digest operations
  refine ⟨hsound.consistent, fun key detail now => ⟨?_, ?_⟩⟩
  · intro hidle
    have hkeep : (c.settings.isActive && !detail.isError) = false := by
      rcases hidle with hoff | herror
      · rw [hoff, Bool.false_and]
      · rw [herror, Bool.not_true, Bool.and_false]
    rw [insert, hkeep]
    rfl
  · intro hactive hvalid all
    obtain ⟨dropped, hdropping, hone, hnew⟩ := hsound.dropping_added hactive key detail now
    have hinsert := insert_eq c hactive key hvalid now
    refine ⟨dropped, _, hdropping, hinsert, hone, hnew, fun k => ?_⟩
    rw [hinsert]
    dsimp only
    rw [hdropping.get?, get?_added]
    by_cases hk : k = key
    · rw [if_pos hk, if_pos hk, hk, if_neg hnew]
    · rw [if_neg hk, if_neg hk]

/-- Of two results the one that was looked up last stays when a third one is put in. -/
theorem consistent_after_full :
    let put (flag : String) : Operation := .insert flag .boolean .empty (.ofValue true)
    let operations := [(0, put "a"), (1, put "b"), (2, .get "a" .boolean .empty)]
    let c := (ofSettings { maxSize := 2 }).after id operations
    let keyOf (flag : String) : String := key id flag .boolean .empty
    let more := c.insert (keyOf "c") (.ofValue (.bool true)) 3
    c.settings.isActive = true ∧ c.Consistent ∧
      (∃ dropped : List String, dropped.length ≤ 1 ∧ keyOf "c" ∉ dropped ∧
        ∀ k, more.entries.get? k = if k = keyOf "c" then some ⟨.ofValue (.bool true), 3, 4⟩
          else if k ∈ dropped then none else c.entries.get? k) ∧
      ["a", "b", "c"].map (fun flag => (more.entries.get? (keyOf flag)).isSome) =
        [true, false, true] := by
  intro put operations c keyOf more
  have hactive : c.settings.isActive = true := by decide +kernel
  obtain ⟨hconsistent, hinsert⟩ := consistent_after id { maxSize := 2 } operations
  obtain ⟨dropped, kept, -, -, hone, hnew, hentries⟩ :=
    (hinsert (keyOf "c") (.ofValue (.bool true)) 3).2 hactive rfl
  exact ⟨hactive, hconsistent, ⟨dropped, hone, hnew, hentries⟩, by decide +kernel⟩

end Cache

end FeatureFlags
