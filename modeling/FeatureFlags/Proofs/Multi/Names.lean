import Mathlib.Data.List.Nodup
import FeatureFlags.Multi.Provider
import FeatureFlags.Proofs.Calls

/-!
# Names of their own

Members of a combined provider go by distinct names. A name that is given stays as it is; two that
are equal are refused. The name of a provider is kept by a member that has it alone, and any other
member gets the first number that is free behind that name. Numbers are never searched for in vain:
there are more of them than names that can be taken (`numbered_cases`).
-/
namespace FeatureFlags.Multi

/-- What is known of a member before it has its name: the name that is given to it, if any, and the
name of its provider. -/
abbrev Naming := Option String × String

variable {members front behind rest : List Naming} {names taken : List String}
  {base name : String} {shared : String → Bool}

/-- The names that are given to members. -/
def given (members : List Naming) : List String := members.filterMap (·.1)

/-- The names of the providers of members to which none is given. -/
def ungiven (members : List Naming) : List String := (members.filter (·.1.isNone)).map (·.2)

/-- A name with a number behind it. -/
def suffixed (base : String) (i : Nat) : String := base ++ "-" ++ toString i

/-- The first number with which a name is not among those that are taken. -/
structure FirstFree (isTaken : String → Prop) (base : String) (i : Nat) : Prop where
  pos : 1 ≤ i
  free : ¬isTaken (suffixed base i)
  first : ∀ j, 1 ≤ j → j < i → isTaken (suffixed base j)

/-! ## Names that are given -/

theorem duplicate?_eq_none_iff {seen names : List String} :
    duplicate? seen names = none ↔ names.Nodup ∧ ∀ name ∈ names, name ∉ seen := by
  induction names generalizing seen with
  | nil => simp [duplicate?]
  | cons name rest ih =>
    rw [duplicate?]
    by_cases hseen : name ∈ seen
    · simp [hseen]
    · have hnotSeen : seen.contains name = false := by simpa using hseen
      rw [hnotSeen, if_neg Bool.false_ne_true, ih, List.nodup_cons]
      grind

/-- The name that is refused is given to two members. -/
theorem two_le_count_of_duplicate? {seen names : List String}
    (h : duplicate? seen names = some name) :
    name ∈ names ∧ (name ∈ seen ∨ 2 ≤ names.count name) := by
  induction names generalizing seen with
  | nil => cases h
  | cons first rest ih =>
    rw [duplicate?] at h
    split at h
    next hseen =>
      obtain rfl := Option.some.inj h
      exact ⟨List.mem_cons_self, .inl (by simpa using hseen)⟩
    next =>
      obtain ⟨hmem, hbefore⟩ := ih h
      refine ⟨List.mem_cons_of_mem _ hmem, ?_⟩
      by_cases hfirst : name = first
      · right
        have hcount : 0 < rest.count name := List.count_pos_iff.2 hmem
        rw [hfirst] at hcount ⊢
        rw [List.count_cons_self]
        omega
      · have hcount : rest.count name ≤ (first :: rest).count name := List.count_le_count_cons
        rcases hbefore with hseen | htwo
        · exact .inl ((List.mem_cons.1 hseen).resolve_left hfirst)
        · exact .inr (Nat.le_trans htwo hcount)

theorem length_given_add (members : List Naming) :
    (given members).length + (ungiven members).length = members.length := by
  induction members with
  | nil => rfl
  | cons m rest ih =>
    obtain ⟨_ | name, base⟩ := m
    · have hgiven : given ((none, base) :: rest) = given rest := rfl
      have hungiven : ungiven ((none, base) :: rest) = base :: ungiven rest := rfl
      rw [hgiven, hungiven, List.length_cons, List.length_cons]
      omega
    · have hgiven : given ((some name, base) :: rest) = name :: given rest := rfl
      have hungiven : ungiven ((some name, base) :: rest) = ungiven rest := rfl
      rw [hgiven, hungiven, List.length_cons, List.length_cons]
      omega

/-! ## Numbers -/

theorem suffixed_inj {i j : Nat} (h : suffixed base i = suffixed base j) : i = j := by
  have htext : toString i = toString j := (String.append_right_inj (base ++ "-")).1 h
  have hdigits : Nat.toDigits 10 i = Nat.toDigits 10 j := String.ofList_injective htext
  have hvalue := congrArg (Nat.ofDigitChars 10 · 0) hdigits
  simpa only [Nat.ofDigitChars_toDigits (by decide : 1 < 10) (Nat.le_refl 10)] using hvalue

theorem suffixed_ne (base : String) (i : Nat) : suffixed base i ≠ base := by
  intro h
  have hlength := congrArg String.length h
  simp only [suffixed, String.length_append] at hlength
  have hdash : "-".length = 1 := rfl
  omega

/-- More numbers are tried than names are taken, so one of them is free. -/
theorem numbered_cases (taken : List String) (base : String) :
    ∃ i, i ≤ taken.length + 1 ∧ numbered taken base = suffixed base i ∧
      FirstFree (· ∈ taken) base i := by
  let numbers := List.range' 1 (taken.length + 1)
  let isFree : Nat → Bool := fun i => !taken.contains (suffixed base i)
  have hnumbered :
      numbered taken base = ((numbers.find? isFree).map (suffixed base)).getD base := by
    rw [numbered, List.find?_map]
    rfl
  cases hfound : numbers.find? isFree with
  | none =>
    have htaken : numbers.map (suffixed base) ⊆ taken := by
      intro x hx
      obtain ⟨i, hi, rfl⟩ := List.mem_map.1 hx
      simpa [isFree] using List.find?_eq_none.1 hfound i hi
    have hdistinct : (numbers.map (suffixed base)).Nodup :=
      (List.nodup_range' 1).map fun _ _ => suffixed_inj
    have hlength := hdistinct.length_le_of_subset htaken
    rw [List.length_map, List.length_range'] at hlength
    omega
  | some i =>
    obtain ⟨hfree, hmem, hbefore⟩ := List.find?_range'_eq_some.1 hfound
    obtain ⟨hpos, hle⟩ := List.mem_range'_1.1 hmem
    refine ⟨i, by omega, ?_, hpos, ?_, fun j hj hlt => ?_⟩
    · rw [hnumbered, hfound]
      rfl
    · simpa [isFree] using hfree
    · simpa [isFree] using hbefore j hj hlt

/-! ## One member after the other -/

/-- The name that a member gets to which none is given. -/
def chosen (shared : String → Bool) (taken : List String) (base : String) : String :=
  if !shared base && !taken.contains base then base else numbered taken base

theorem chosen_not_mem (shared : String → Bool) (taken : List String) (base : String) :
    chosen shared taken base ∉ taken := by
  rw [chosen]
  split
  next hplain =>
    simp only [Bool.and_eq_true, Bool.not_eq_true', List.contains_eq_mem, decide_eq_false_iff_not]
      at hplain
    exact hplain.2
  next =>
    obtain ⟨i, -, hname, hfree⟩ := numbered_cases taken base
    rw [hname]
    exact hfree.free

theorem chosen_eq_iff : chosen shared taken base = base ↔ shared base = false ∧ base ∉ taken := by
  rw [chosen]
  split
  next hplain => simpa using hplain
  next hplain =>
    obtain ⟨i, -, hname, -⟩ := numbered_cases taken base
    rw [hname]
    have hne := suffixed_ne base i
    simp only [hne, false_iff]
    simpa using hplain

theorem numbered_of_chosen_ne (h : chosen shared taken base ≠ base) :
    chosen shared taken base = numbered taken base := by
  rw [chosen] at h ⊢
  split
  next hplain => exact absurd (if_pos hplain) h
  next => rfl

/-- The names that are taken when some members have theirs. -/
def takenAfter (shared : String → Bool) : List String → List Naming → List String
  | taken, [] => taken
  | taken, (some _, _) :: rest => takenAfter shared taken rest
  | taken, (none, base) :: rest => takenAfter shared (chosen shared taken base :: taken) rest

theorem assign_append (shared : String → Bool) (taken : List String) (front rest : List Naming) :
    assign shared taken (front ++ rest) =
      assign shared taken front ++ assign shared (takenAfter shared taken front) rest := by
  fun_induction takenAfter shared taken front with
  | case1 => rfl
  | case2 taken name base front ih => exact congrArg (name :: ·) ih
  | case3 taken base front ih => exact congrArg (chosen shared taken base :: ·) ih

@[simp]
theorem length_assign (shared : String → Bool) (taken : List String) (members : List Naming) :
    (assign shared taken members).length = members.length := by
  fun_induction takenAfter shared taken members with
  | case1 => rfl
  | case2 taken name base rest ih => exact congrArg (· + 1) ih
  | case3 taken base rest ih => exact congrArg (· + 1) ih

/-- Every member without a given name takes one more. -/
theorem length_takenAfter (shared : String → Bool) (taken : List String) (front : List Naming) :
    (takenAfter shared taken front).length = taken.length + (ungiven front).length := by
  fun_induction takenAfter shared taken front with
  | case1 => rfl
  | case2 taken name base front ih => exact ih
  | case3 taken base front ih =>
    have hungiven : ungiven ((none, base) :: front) = base :: ungiven front := rfl
    rw [ih, hungiven, List.length_cons, List.length_cons]
    omega

/-- Where the names that are given are taken from the start, the names of members are. -/
theorem mem_takenAfter (hgiven : given front ⊆ taken) :
    name ∈ takenAfter shared taken front ↔ name ∈ taken ∨ name ∈ assign shared taken front := by
  fun_induction takenAfter shared taken front with
  | case1 => simp [assign]
  | case2 taken first base front ih =>
    obtain ⟨hfirst, hfront⟩ := List.cons_subset.1 hgiven
    rw [ih hfront, assign, List.mem_cons]
    constructor
    · rintro (h | h)
      · exact .inl h
      · exact .inr (.inr h)
    · rintro (h | rfl | h)
      · exact .inl h
      · exact .inl hfirst
      · exact .inr h
  | case3 taken base front ih =>
    have hassign : assign shared taken ((none, base) :: front) =
        chosen shared taken base :: assign shared (chosen shared taken base :: taken) front := rfl
    rw [ih (List.subset_cons_of_subset _ hgiven), hassign, List.mem_cons, List.mem_cons]
    exact or_assoc.trans or_left_comm

/-- No two members have one name, and a name that is not given was free before. -/
theorem nodup_assign (hgiven : given members ⊆ taken) (hdistinct : (given members).Nodup) :
    (assign shared taken members).Nodup ∧
      ∀ name ∈ assign shared taken members, name ∈ given members ∨ name ∉ taken := by
  fun_induction takenAfter shared taken members with
  | case1 => simp [assign]
  | case2 taken first base rest ih =>
    obtain ⟨hfirst, hrest⟩ := List.cons_subset.1 hgiven
    obtain ⟨hnew, hothers⟩ := List.nodup_cons.1 hdistinct
    obtain ⟨hnodup, hcases⟩ := ih hrest hothers
    refine ⟨List.nodup_cons.2 ⟨fun hmem => ?_, hnodup⟩, fun name hname => ?_⟩
    · rcases hcases first hmem with h | h
      · exact hnew h
      · exact h hfirst
    · rcases List.mem_cons.1 hname with rfl | hname
      · exact .inl List.mem_cons_self
      · exact (hcases name hname).imp_left (List.mem_cons_of_mem first)
  | case3 taken base rest ih =>
    have hfree := chosen_not_mem shared taken base
    obtain ⟨hnodup, hcases⟩ := ih (List.subset_cons_of_subset _ hgiven) hdistinct
    refine ⟨List.nodup_cons.2 ⟨fun hmem => ?_, hnodup⟩, fun name hname => ?_⟩
    · rcases hcases _ hmem with h | h
      · exact hfree (hgiven h)
      · exact h List.mem_cons_self
    · rcases List.mem_cons.1 hname with rfl | hname
      · exact .inr hfree
      · exact (hcases name hname).imp_right fun h => h ∘ List.mem_cons_of_mem _

/-! ## All members -/

/-- Whether a name is taken for a member: it is given to some member, or an earlier one has it. -/
def Taken (members : List Naming) (earlier : List String) (name : String) : Prop :=
  name ∈ given members ∨ name ∈ earlier

/-- The names of members are distinct. A given name stays; a member without one has the name of its
provider if it is the only such member of that provider's name and the name is not taken, and
otherwise that name with the first free number. -/
structure Distinguished (members : List Naming) (names : List String) : Prop where
  length_eq : names.length = members.length
  nodup : names.Nodup
  given : ∀ front behind name base, members = front ++ (some name, base) :: behind →
    names[front.length]? = some name
  plain : ∀ front behind base, members = front ++ (none, base) :: behind →
    (names[front.length]? = some base ↔
      (none, base) ∉ front ++ behind ∧ ¬Taken members (names.take front.length) base)
  numbered : ∀ front behind base, members = front ++ (none, base) :: behind →
    names[front.length]? ≠ some base → ∃ i, i ≤ members.length ∧
      names[front.length]? = some (suffixed base i) ∧
      FirstFree (Taken members (names.take front.length)) base i

/-- A provider's name is shared if more than one member without a given name has it. -/
def isShared (members : List Naming) (base : String) : Bool := 1 < (ungiven members).count base

theorem count_ungiven (members : List Naming) (base : String) :
    (ungiven members).count base = members.count (none, base) := by
  induction members with
  | nil => rfl
  | cons m rest ih =>
    obtain ⟨_ | name, other⟩ := m
    · have hungiven : ungiven ((none, other) :: rest) = other :: ungiven rest := rfl
      rw [hungiven, List.count_cons, List.count_cons, ih]
      simp
    · have hungiven : ungiven ((some name, other) :: rest) = ungiven rest := rfl
      rw [hungiven, List.count_cons, ih]
      simp

theorem isShared_eq_false_iff (front behind : List Naming) (base : String) :
    isShared (front ++ (none, base) :: behind) base = false ↔ (none, base) ∉ front ++ behind := by
  rw [isShared, decide_eq_false_iff_not, count_ungiven, List.count_append, List.count_cons_self,
    List.mem_append, ← List.count_pos_iff, ← List.count_pos_iff]
  omega

/-- What stands at the place of a member, and what is taken there. -/
theorem assign_at (shared : String → Bool) (hgiven : given front ⊆ taken) (m : Naming)
    (behind : List Naming) :
    let names := assign shared taken (front ++ m :: behind)
    let before := takenAfter shared taken front
    names[front.length]? = some ((m.1).getD (chosen shared before m.2)) ∧
      ∀ name, name ∈ before ↔ name ∈ taken ∨ name ∈ names.take front.length := by
  intro names before
  have hnames : names = assign shared taken front ++ assign shared before (m :: behind) :=
    assign_append shared taken front (m :: behind)
  have hlength := length_assign shared taken front
  have htake : names.take front.length = assign shared taken front := by
    rw [hnames, ← hlength, List.take_left]
  constructor
  · rw [hnames, ← hlength, List.getElem?_append_right (Nat.le_refl _), Nat.sub_self]
    obtain ⟨_ | name, base⟩ := m <;> rfl
  · intro name
    rw [htake]
    exact mem_takenAfter hgiven

theorem distinguished_assign (hdistinct : (given members).Nodup) :
    Distinguished members (assign (isShared members) (given members) members) := by
  have hgiven {front behind : List Naming} (h : members = front ++ behind) :
      given front ⊆ given members := by
    rw [h, given, given, List.filterMap_append]
    exact List.subset_append_left _ _
  refine ⟨length_assign _ _ _, (nodup_assign (List.Subset.refl _) hdistinct).1, ?_, ?_, ?_⟩
  · intro front behind name base hsplit
    obtain ⟨hat, -⟩ := assign_at (isShared members) (hgiven hsplit) (some name, base) behind
    rwa [← hsplit] at hat
  · intro front behind base hsplit
    obtain ⟨hat, hbefore⟩ := assign_at (isShared members) (hgiven hsplit) (none, base) behind
    rw [← hsplit] at hat hbefore
    rw [hat, Option.getD_none, Option.some_inj, chosen_eq_iff, hbefore]
    nth_rewrite 1 [hsplit]
    rw [isShared_eq_false_iff]
    rfl
  · intro front behind base hsplit hne
    obtain ⟨hat, hbefore⟩ := assign_at (isShared members) (hgiven hsplit) (none, base) behind
    rw [← hsplit] at hat hbefore
    rw [hat, Option.getD_none] at hne ⊢
    rw [ne_eq, Option.some_inj] at hne
    obtain ⟨i, hle, hname, hfree⟩ :=
      numbered_cases (takenAfter (isShared members) (given members) front) base
    rw [numbered_of_chosen_ne hne, hname]
    refine ⟨i, ?_, rfl, hfree.pos, fun htaken => hfree.free ((hbefore _).2 htaken),
      fun j hj hlt => (hbefore _).1 (hfree.first j hj hlt)⟩
    -- the member itself has no name yet, so that fewer names are taken than there are members
    have hcount : (ungiven members).length =
        (ungiven front).length + ((ungiven behind).length + 1) := by
      rw [hsplit, ungiven, ungiven, ungiven, List.filter_append, List.map_append]
      simp
    have htotal := length_given_add members
    rw [length_takenAfter] at hle
    omega

theorem uniqueNames_eq (members : List Naming) :
    uniqueNames members = match duplicate? [] (given members) with
      | some name => .error (.duplicateMember name)
      | none => .ok (assign (isShared members) (given members) members) := rfl

theorem distinguished_of_uniqueNames (h : uniqueNames members = .ok names) :
    Distinguished members names := by
  rw [uniqueNames_eq] at h
  split at h
  next => cases h
  next hunrepeated =>
    cases h
    exact distinguished_assign (duplicate?_eq_none_iff.1 hunrepeated).1

/-- Names are refused if one is given twice. Otherwise all members have names of their own: the
given ones, those of their providers, and those with the first free number. -/
theorem uniqueNames_distinguish (members : List Naming) :
    ((∃ e, uniqueNames members = .error e) ↔ ¬(given members).Nodup) ∧
    (∀ e, uniqueNames members = .error e →
      ∃ name, e = .duplicateMember name ∧ 2 ≤ (given members).count name) ∧
    ∀ names, uniqueNames members = .ok names → Distinguished members names := by
  refine and_assoc.1 ⟨?_, fun names => distinguished_of_uniqueNames⟩
  rw [uniqueNames_eq]
  cases hduplicate : duplicate? [] (given members) with
  | none =>
    obtain ⟨hdistinct, -⟩ := duplicate?_eq_none_iff.1 hduplicate
    exact ⟨iff_of_false (by simp) (not_not_intro hdistinct), by simp⟩
  | some name =>
    have htwice : 2 ≤ (given members).count name :=
      (two_le_count_of_duplicate? hduplicate).2.resolve_left List.not_mem_nil
    have hrepeated : ¬(given members).Nodup := fun h => by
      have hone := List.nodup_iff_count_le_one.1 h name
      omega
    refine ⟨iff_of_true ⟨_, rfl⟩ hrepeated, ?_⟩
    rintro _ ⟨⟩
    exact ⟨name, rfl, htwice⟩

/-- Names that collide in every way: with one that is given, with each other, and with a number. -/
def colliding : List Naming :=
  [(none, "a"), (none, "b"), (none, "b"), (none, "b-1"), (some "a", "c"), (none, "c")]

theorem uniqueNames_distinguish_colliding :
    let names := ["a-1", "b-1", "b-2", "b-1-1", "a", "c"]
    uniqueNames colliding = .ok names ∧ Distinguished colliding names ∧
      uniqueNames ((some "a", "b") :: colliding) = .error (.duplicateMember "a") ∧
      ¬(given ((some "a", "b") :: colliding)).Nodup := by
  intro names
  have hok : uniqueNames colliding = .ok names := by decide +kernel
  have hrefused : uniqueNames ((some "a", "b") :: colliding) = .error (.duplicateMember "a") := rfl
  exact ⟨hok, (uniqueNames_distinguish colliding).2.2 names hok, hrefused,
    (uniqueNames_distinguish _).1.1 ⟨_, hrefused⟩⟩

/-! ## Combined providers -/

/-- What is known of the members that entries become. -/
def namings (entries : List Entry) : List Naming := entries.map fun e => (e.name, e.provider.name)

theorem uniqueNames_of_setUp {entries : List Entry} {strategy : Strategy}
    (h : setUp entries strategy = .ok names) : uniqueNames (namings entries) = .ok names := by
  rw [setUp] at h
  split at h
  · cases h
  · cases hfound : uniqueNames (namings entries) with
    | error e =>
      rw [← namings, hfound] at h
      cases h
    | ok found =>
      rw [← namings, hfound] at h
      simp only [bind, Except.bind] at h
      split at h
      · cases h
      · exact h

theorem on_isolate_names (entries : List (Entry × String)) (s : Store) :
    ∃ members s', (isolate entries).on s = (.ok members, s') ∧
      members.map (·.name) = entries.map (·.2) := by
  induction entries generalizing s with
  | nil => exact ⟨[], s, rfl, rfl⟩
  | cons e rest ih =>
    obtain ⟨entry, name⟩ := e
    obtain ⟨members, s', hrest, hnames⟩ := ih { s with owners := s.owners + 1 }
    have howner : Eval.newOwner.on s = (.ok s.owners, { s with owners := s.owners + 1 }) := rfl
    refine ⟨⟨name, .new s.owners entry.provider []⟩ :: members, s', ?_, congrArg (name :: ·) hnames⟩
    rw [isolate, Eval.on_bind_ok howner, Eval.on_bind_ok hrest]
    rfl

/-- The members of a combined provider stand in the order of the entries, under names of their
own. -/
theorem new_distinguished {entries : List Entry} {strategy : Strategy} {s s' : Store} {m : Multi}
    (h : (new entries strategy).on s = (.ok (.ok m), s')) :
    Distinguished (namings entries) m.names := by
  rw [new] at h
  cases hsetUp : setUp entries strategy with
  | error e =>
    rw [hsetUp] at h
    cases h
  | ok names =>
    have hdistinguished := distinguished_of_uniqueNames (uniqueNames_of_setUp hsetUp)
    obtain ⟨members, s₁, hisolate, hmembers⟩ := on_isolate_names (entries.zip names) s
    have hlength : names.length = entries.length := by
      rw [hdistinguished.length_eq, namings, List.length_map]
    have hzip : (entries.zip names).map (·.2) = names :=
      List.map_snd_zip (Nat.le_of_eq hlength)
    rw [hsetUp] at h
    dsimp only at h
    rw [Eval.on_bind_ok hisolate] at h
    cases h
    rwa [Multi.names, hmembers, hzip]

end FeatureFlags.Multi
