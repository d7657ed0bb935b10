import FeatureFlags.Proofs.Cache.Ranking

/-!
# More room

A cache with more room finds whatever one with less room finds, when both are asked the same at the
same times (`larger_finds_all`). The two drop results at different moments, a hit in the larger one
alone changes the order in that one alone, and results that expire make room in both or in one. So
the smaller ranking is in general not the front of the larger one. What every operation keeps is
that it stands inside the larger one in the same order, and that the larger one is ahead of it by no
more results than it has more room (`Ranking.Inside`). Hence the larger cache is never full alone.
-/
namespace FeatureFlags

namespace Cache

namespace Ranking

variable {small large kept : Ranking}

/-- The results under one of the keys are counted in the smaller ranking at most as often as in the
larger one. -/
theorem length_without (h : small.Sublist large) (key : String) :
    (large.without key).length + small.length ≤ large.length + (small.without key).length := by
  have hdropped : small.countP (fun k => decide ¬decide (k.key ≠ key) = true) ≤
      large.countP (fun k => decide ¬decide (k.key ≠ key) = true) := h.countP_le
  have hsmall := small.length_eq_countP_add_countP fun k => decide (k.key ≠ key)
  have hlarge := large.length_eq_countP_add_countP fun k => decide (k.key ≠ key)
  rw [List.countP_eq_length_filter] at hsmall hlarge
  unfold without
  omega

theorem length_without_lt {key : String} {k : Kept} (hk : k ∈ kept) (hkey : k.key = key) :
    (kept.without key).length < kept.length :=
  List.length_filter_lt_length_iff_exists.2 ⟨k, hk, by simpa using hkey⟩

theorem not_mem_keys_without (kept : Ranking) (key : String) :
    key ∉ (kept.without key).map (·.key) := by
  simp [without]

theorem without_of_absent {key : String} (h : kept.find? (·.key = key) = none) :
    kept.without key = kept := by
  refine List.filter_eq_self.2 fun k hk => ?_
  simpa using List.find?_eq_none.1 h k hk

theorem dropLast_sublist_dropLast (h : small.Sublist large) :
    small.dropLast.Sublist large.dropLast := by
  rw [← List.reverse_sublist, ← List.tail_reverse, ← List.tail_reverse]
  exact (List.reverse_sublist.2 h).tail

/-- A ranking stands inside another one, whose cache has room for `room'` results instead of
`room`. -/
structure Inside (room room' : Nat) (small large : Ranking) : Prop where
  distinct : (large.map (·.key)).Nodup
  order : small.Sublist large
  ahead : large.length + room ≤ small.length + room'

namespace Inside

variable {room room' : Nat}

theorem empty (h : room ≤ room') : Inside room room' [] [] :=
  ⟨List.nodup_nil, List.Sublist.slnil, by simpa using h⟩

/-- What is found in the smaller ranking is found in the larger one. -/
theorem find? (h : Inside room room' small large) {key : String} {k : Kept}
    (hfound : small.find? (·.key = key) = some k) : large.find? (·.key = key) = some k := by
  have hk : k ∈ large := h.order.subset (List.mem_of_find?_eq_some hfound)
  have hkey : k.key = key := by simpa using List.find?_some hfound
  cases hother : large.find? (·.key = key) with
  | none => exact absurd (decide_eq_true hkey) (List.find?_eq_none.1 hother k hk)
  | some other =>
    have hsame : other.key = key := by simpa using List.find?_some hother
    have hmem : other ∈ large := List.mem_of_find?_eq_some hother
    rw [List.inj_on_of_nodup_map h.distinct hmem hk (hsame.trans hkey.symm)]

theorem without (h : Inside room room' small large) (key : String) :
    Inside room room' (small.without key) (large.without key) where
  distinct := h.distinct.sublist (List.filter_sublist.map _)
  order := h.order.filter _
  ahead := by
    have hlength := length_without h.order key
    have hahead := h.ahead
    omega

/-- A result of a new key is put in front of both. -/
theorem cons (h : Inside room room' small large) {k : Kept} (hk : k.key ∉ large.map (·.key)) :
    Inside room room' (k :: small) (k :: large) where
  distinct := List.nodup_cons.2 ⟨hk, h.distinct⟩
  order := h.order.cons_cons k
  ahead := by
    have hahead := h.ahead
    simp only [List.length_cons]
    omega

/-- Only the larger ranking changes, and only in the place of a key that the smaller one lacks. -/
theorem alone (h : Inside room room' small large) {key : String}
    (habsent : small.find? (·.key = key) = none) {k : Kept} (hk : k ∈ large) (hkey : k.key = key) :
    Inside room room' small (large.without key) ∧
      Inside room room' small (k :: large.without key) := by
  have hshorter := length_without_lt hk hkey
  have horder : small.Sublist (large.without key) := by
    rw [← without_of_absent habsent]
    exact h.order.filter _
  have hdistinct := (h.without key).distinct
  have hahead := h.ahead
  refine ⟨⟨hdistinct, horder, by omega⟩, ⟨?_, horder.cons k, ?_⟩⟩
  · exact List.nodup_cons.2 ⟨hkey ▸ not_mem_keys_without large key, hdistinct⟩
  · rw [List.length_cons]
    omega

/-- Whatever is looked up, the smaller ranking finds it only if the larger one does. -/
theorem get? (h : Inside room room' small large) (ttl : Nat) (key : String) (now : Nat) :
    ((small.get? ttl key now).1 = none ∨
        (small.get? ttl key now).1 = (large.get? ttl key now).1) ∧
      Inside room room' (small.get? ttl key now).2 (large.get? ttl key now).2 := by
  rw [Ranking.get?, Ranking.get?]
  cases hsmall : small.find? (·.key = key) with
  | some k =>
    -- the time of the result is the same in both, so that it is over in both or in none
    rw [h.find? hsmall]
    have hkey : k.key = key := by simpa using List.find?_some hsmall
    by_cases hold : ttl ≤ now - k.insertedAt
    · simp only [hold, if_true]
      exact ⟨.inl trivial, h.without key⟩
    · simp only [hold, if_false]
      exact ⟨.inr trivial, (h.without key).cons (hkey ▸ not_mem_keys_without large key)⟩
  | none =>
    refine ⟨.inl rfl, ?_⟩
    cases hlarge : large.find? (·.key = key) with
    | none => exact h
    | some k =>
      have hkey : k.key = key := by simpa using List.find?_some hlarge
      obtain ⟨hexpired, hused⟩ := h.alone hsmall (List.mem_of_find?_eq_some hlarge) hkey
      by_cases hold : ttl ≤ now - k.insertedAt
      · simpa only [hold, if_true] using hexpired
      · simpa only [hold, if_false] using hused

/-- If the larger cache has to drop a result then so has the smaller one. -/
theorem insert (h : Inside room room' small large) (key : String) (detail : Resolution Json)
    (now : Nat) :
    Inside room room' (small.insert room key detail now) (large.insert room' key detail now) := by
  let k : Kept := ⟨key, detail, now⟩
  have hall : Inside room room' (k :: small.without key) (k :: large.without key) :=
    (h.without key).cons (not_mem_keys_without large key)
  rw [Ranking.insert, Ranking.insert]
  generalize k :: small.without key = s at hall
  generalize k :: large.without key = l at hall
  have hahead := hall.ahead
  by_cases hlarge : room' < l.length
  · have hsmall : room < s.length := by omega
    rw [if_pos hsmall, if_pos hlarge]
    refine ⟨hall.distinct.sublist ((List.dropLast_sublist l).map _),
      dropLast_sublist_dropLast hall.order, ?_⟩
    rw [List.length_dropLast, List.length_dropLast]
    omega
  · rw [if_neg hlarge]
    split
    next hsmall =>
      refine ⟨hall.distinct, (List.dropLast_sublist s).trans hall.order, ?_⟩
      rw [List.length_dropLast]
      omega
    next => exact hall

end Inside

end Ranking

/-- What is seen of a smaller cache beside what is seen of a larger one: the larger one may find
more and hold more, and where both find a result it is the same. -/
inductive Observation.Within : Observation → Observation → Prop
  | missed (t : FlagType) (answer : Option (Resolution t.Value)) :
    Within (.found t none) (.found t answer)
  | same (t : FlagType) (answer : Option (Resolution t.Value)) :
    Within (.found t answer) (.found t answer)
  | done : Within .done .done
  | size {m n : Nat} (h : m ≤ n) : Within (.size m) (.size n)

namespace Operation

variable {small large : Ranking} {room room' : Nat}

/-- One operation on two active caches. -/
theorem onRanking_inside (digest : String → String) (h : Ranking.Inside room room' small large)
    (ttl now : Nat) (operation : Operation) :
    let less := operation.onRanking digest ttl room now small
    let more := operation.onRanking digest ttl room' now large
    Observation.Within less.1 more.1 ∧ Ranking.Inside room room' less.2 more.2 := by
  cases operation with
  | get flag t context =>
    obtain ⟨hfound, hafter⟩ := h.get? ttl (key digest flag t context) now
    refine ⟨?_, hafter⟩
    simp only [onRanking]
    rcases hfound with hnone | hsame
    · rw [hnone]
      exact .missed t _
    · rw [hsame]
      exact .same t _
  | insert flag t context detail =>
    simp only [onRanking]
    split
    next => exact ⟨.done, h⟩
    next => exact ⟨.done, h.insert _ _ now⟩
  | clear =>
    have hroom : room ≤ room' := by
      have hahead := h.ahead
      have hlength := h.order.length_le
      omega
    exact ⟨.done, .empty hroom⟩
  | size => exact ⟨.size h.order.length_le, h⟩

/-- A cache that is off shows no more than any other. -/
theorem onNothing_within (digest : String → String) (settings : CacheSettings) (now : Nat)
    (operation : Operation) (large : Ranking) : Observation.Within operation.onNothing
      (operation.onReference digest settings now large).1 := by
  rw [onReference]
  cases operation with
  | get flag t context => split <;> exact .missed t _
  | insert flag t context detail =>
    split
    · exact .done
    · simp only [onRanking]
      split <;> exact .done
  | clear => split <;> exact .done
  | size => split <;> exact .size (Nat.zero_le _)

end Operation

section

variable {digest : String → String} {settings settings' : CacheSettings}

theorem observed_within_of_off (hoff : settings.enabled = false ∨ settings.maxSize = 0)
    (small large : Ranking) (operations : List (Nat × Operation)) :
    List.Forall₂ Observation.Within
      (observed (Operation.onReference digest settings) small operations)
      (observed (Operation.onReference digest settings') large operations) := by
  induction operations generalizing small large with
  | nil => exact .nil
  | cons head rest ih =>
    obtain ⟨now, operation⟩ := head
    have hnothing : operation.onReference digest settings now small =
        (operation.onNothing, small) := if_pos hoff
    rw [observed, observed, hnothing]
    exact .cons (Operation.onNothing_within digest settings' now operation large) (ih _ _)

theorem observed_within_of_inside (hon : ¬(settings.enabled = false ∨ settings.maxSize = 0))
    (hon' : ¬(settings'.enabled = false ∨ settings'.maxSize = 0))
    (httl : settings.ttl = settings'.ttl) {small large : Ranking}
    (h : Ranking.Inside settings.maxSize settings'.maxSize small large)
    (operations : List (Nat × Operation)) :
    List.Forall₂ Observation.Within
      (observed (Operation.onReference digest settings) small operations)
      (observed (Operation.onReference digest settings') large operations) := by
  induction operations generalizing small large with
  | nil => exact .nil
  | cons head rest ih =>
    obtain ⟨now, operation⟩ := head
    have hless : operation.onReference digest settings now small =
        operation.onRanking digest settings'.ttl settings.maxSize now small := by
      rw [Operation.onReference, if_neg hon, httl]
    have hmore : operation.onReference digest settings' now large =
        operation.onRanking digest settings'.ttl settings'.maxSize now large := if_neg hon'
    obtain ⟨hseen, hafter⟩ := Operation.onRanking_inside digest h settings'.ttl now operation
    rw [observed, observed, hless, hmore]
    exact .cons hseen (ih hafter)

end

/-- Of two caches that differ in their size only, the larger one finds whatever the smaller one
finds, the same result each time, whatever both are asked and at whatever times. -/
theorem larger_finds_all (digest : String → String) (settings : CacheSettings) {size size' : Nat}
    (h : size ≤ size') (operations : List (Nat × Operation)) :
    List.Forall₂ Observation.Within
      (observed (Operation.onCache digest) (ofSettings { settings with maxSize := size })
        operations)
      (observed (Operation.onCache digest) (ofSettings { settings with maxSize := size' })
        operations) := by
  let less : CacheSettings := { settings with maxSize := size }
  let more : CacheSettings := { settings with maxSize := size' }
  have hless : observed (Operation.onCache digest) (ofSettings less) operations =
      observed (Operation.onReference digest less) [] operations :=
    observed_of_represents digest (Represents.ofSettings less) operations
  have hmore : observed (Operation.onCache digest) (ofSettings more) operations =
      observed (Operation.onReference digest more) [] operations :=
    observed_of_represents digest (Represents.ofSettings more) operations
  rw [hless, hmore]
  by_cases hoff : less.enabled = false ∨ less.maxSize = 0
  · exact observed_within_of_off hoff [] [] operations
  · have hon : ¬(more.enabled = false ∨ more.maxSize = 0) := by
      rw [not_or] at hoff ⊢
      have hsize : ¬size = 0 := hoff.2
      refine ⟨hoff.1, ?_⟩
      show ¬size' = 0
      omega
    exact observed_within_of_inside hoff hon rfl (.empty h) operations

/-- `a` leaves both caches for its age, and later `c` leaves both for want of room. In between the
larger cache alone finds `b`, which stays there longer than `c` for it. -/
theorem larger_finds_all_expiring :
    let put (flag : String) : Operation := .insert flag .boolean .empty (.ofValue true)
    let ask (flag : String) : Operation := .get flag .boolean .empty
    let operations := [(0, put "a"), (1, put "b"), (1, ask "a"), (2, put "c"), (2, ask "c"),
      (2, ask "b"), (10, ask "a"), (10, put "d"), (10, put "e"), (10, ask "c"), (10, ask "b")]
    let seen (size : Nat) : List Observation :=
      observed (Operation.onCache id) (ofSettings { ttl := 10, maxSize := size }) operations
    let hits (size : Nat) : List Bool := (seen size).filterMap fun
      | .found _ answer => some answer.isSome
      | _ => none
    2 ≤ 3 ∧ List.Forall₂ Observation.Within (seen 2) (seen 3) ∧
      hits 2 = [true, true, false, false, false, false] ∧
      hits 3 = [true, true, true, false, false, true] := by
  intro put ask operations seen hits
  have hsize : 2 ≤ 3 := by decide
  exact ⟨hsize, larger_finds_all id { ttl := 10 } hsize operations, by decide +kernel,
    by decide +kernel⟩

end Cache

end FeatureFlags
