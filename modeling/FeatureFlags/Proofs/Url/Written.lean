import FeatureFlags.Url.Reader

/-!
# The characters of a URL

What ends a part of a URL is not written in that part: a URL that was read holds no slash, question
mark or number sign in its authority and in the segments of its path, and no colon or slash in its
scheme. One lemma for each part, and `ofChars?_wellFormed` for the whole.
-/
namespace FeatureFlags.Url

/-- Characters that end an authority or a segment. -/
def isEnd (c : Char) : Bool := c = '/' || c = '?' || c = '#'

/-- No character ends the part that the text stands in. -/
def Open (s : List Char) : Prop := ∀ c ∈ s, isEnd c = false

instance : DecidablePred Open := fun s =>
  decidable_of_iff (s.all (!isEnd ·) = true) (by simp [Open])

/-- The same of the segments of a path, if it has any. -/
def Path.Open (path : Path) : Prop :=
  ∀ list, path = .segments list → ∀ segment ∈ list, Url.Open segment

/-- Every part can be told from what follows it. -/
structure WellFormed (u : Url) : Prop where
  scheme_ne_nil : u.scheme ≠ []
  scheme : ∀ c ∈ u.scheme, c ≠ ':' ∧ c ≠ '/'
  authority : ∀ a, u.authority = some a → Open a.chars
  path : u.path.Open

variable {s t : List Char} {c : Char}

theorem isEnd_eq_true_iff : isEnd c = true ↔ c = '/' ∨ c = '?' ∨ c = '#' := by
  simp [isEnd, or_assoc]

theorem open_nil : Open [] := fun _ h => absurd h List.not_mem_nil

theorem open_append : Open (s ++ t) ↔ Open s ∧ Open t := by
  simp only [Open, List.mem_append, or_imp, forall_and]

theorem open_cons : Open (c :: s) ↔ isEnd c = false ∧ Open s := List.forall_mem_cons

theorem Open.sub (h : Open s) (sub : t ⊆ s) : Open t := fun c hc => h c (sub hc)

/-! ## Percent-encoding -/

theorem upperHexDigit_mem (n : Nat) : upperHexDigit n ∈ "0123456789ABCDEF".toList := by
  have hdigit : ∀ m < 16, upperHexDigit m ∈ "0123456789ABCDEF".toList := by decide
  have hmod : upperHexDigit n = upperHexDigit (n % 16) := by
    rw [upperHexDigit, upperHexDigit, Text.hexDigit, Text.hexDigit, Nat.mod_mod]
  rw [hmod]
  exact hdigit _ (Nat.mod_lt n (by decide))

/-- A character of an encoded text stands for itself or belongs to an escape. -/
theorem mem_encode {p : Part} (h : c ∈ p.encode s) :
    c ∈ s ∧ p.encodes c = false ∨ c ∈ "%0123456789ABCDEF".toList := by
  obtain ⟨d, hd, hc⟩ := List.mem_flatMap.1 h
  rw [Part.encodeChar] at hc
  split at hc
  next =>
    right
    obtain ⟨b, -, hc⟩ := List.mem_flatMap.1 hc
    simp only [encodeByte, List.mem_cons, List.not_mem_nil, or_false] at hc
    rcases hc with rfl | rfl | rfl
    · decide
    · exact List.mem_cons_of_mem _ (upperHexDigit_mem _)
    · exact List.mem_cons_of_mem _ (upperHexDigit_mem _)
  next hkept =>
    left
    rw [List.mem_singleton.1 hc]
    exact ⟨hd, Bool.eq_false_iff.2 hkept⟩

/-- Where the characters that end a part are encoded or absent, an encoded text holds none. -/
theorem open_encode {p : Part} (h : ∀ c ∈ s, isEnd c = true → p.encodes c = true) :
    Open (p.encode s) := by
  have hescape : Open "%0123456789ABCDEF".toList := by decide
  intro c hc
  rcases mem_encode hc with ⟨hmem, hkept⟩ | hdigit
  · cases hend : isEnd c with
    | false => rfl
    | true => exact absurd (h c hmem hend) (Bool.eq_false_iff.1 hkept)
  · exact hescape c hdigit

theorem encodes_of_mem_reserved {p : Part} (h : c ∈ p.reserved) : p.encodes c = true := by
  rw [Part.encodes, List.contains_iff_mem.2 h, Bool.or_true]

theorem open_encode_userInfo (s : List Char) : Open (Part.userInfo.encode s) :=
  open_encode fun c _ hend => encodes_of_mem_reserved <| by
    rcases isEnd_eq_true_iff.1 hend with rfl | rfl | rfl <;> decide

theorem open_encode_segment (special : Bool) (s : List Char) :
    Open ((Part.segment special).encode s) :=
  open_encode fun c _ hend => encodes_of_mem_reserved <| by
    cases special <;> rcases isEnd_eq_true_iff.1 hend with rfl | rfl | rfl <;> decide

theorem open_encode_path (h : '/' ∉ s) : Open (Part.path.encode s) :=
  open_encode fun c hc hend => encodes_of_mem_reserved <| by
    rcases isEnd_eq_true_iff.1 hend with rfl | rfl | rfl
    · exact absurd hc h
    · decide
    · decide

/-! ## Hosts -/

theorem mem_joinChars {separator : Char} {pieces : List (List Char)}
    (h : c ∈ joinChars separator pieces) : c = separator ∨ ∃ piece ∈ pieces, c ∈ piece := by
  rw [joinChars] at h
  induction pieces with
  | nil => cases h
  | cons piece rest ih =>
    cases rest with
    | nil =>
      rw [List.intercalate_singleton] at h
      exact .inr ⟨piece, List.mem_singleton_self _, h⟩
    | cons next rest =>
      rw [List.intercalate_cons_cons, List.mem_append, List.mem_append] at h
      rcases h with (h | h) | h
      · exact .inr ⟨piece, List.mem_cons_self, h⟩
      · exact .inl (List.mem_singleton.1 h)
      · rcases ih h with heq | ⟨p, hp, hc⟩
        · exact .inl heq
        · exact .inr ⟨p, List.mem_cons_of_mem _ hp, hc⟩

theorem open_joinChars {separator : Char} (hseparator : isEnd separator = false)
    {pieces : List (List Char)} (h : ∀ piece ∈ pieces, Open piece) :
    Open (joinChars separator pieces) := by
  intro c hc
  rcases mem_joinChars hc with rfl | ⟨piece, hpiece, hc⟩
  · exact hseparator
  · exact h piece hpiece c hc

/-- Digits of any base up to sixteen. -/
theorem open_toDigits {base : Nat} (hbase : 1 < base) (hmax : base ≤ 16) (n : Nat) :
    Open (Nat.toDigits base n) := by
  have hdigit : ∀ m < 16, isEnd (Nat.digitChar m) = false := by decide
  induction n using Nat.strongRecOn with
  | _ n ih =>
    by_cases hlt : n < base
    · rw [Nat.toDigits_of_lt_base hlt]
      exact List.forall_mem_singleton.2 (hdigit n (by omega))
    · have hle : base ≤ n := by omega
      rw [Nat.toDigits_of_base_le hbase hle, open_append]
      have hmod : n % base < base := Nat.mod_lt n (by omega)
      have hquot : n / base < n := Nat.div_lt_self (by omega) hbase
      exact ⟨ih _ hquot, List.forall_mem_singleton.2 (hdigit _ (by omega))⟩

theorem open_ipv4Chars (address : Nat) : Open (ipv4Chars address) := by
  refine open_joinChars (by decide) fun piece hpiece => ?_
  obtain ⟨unit, -, rfl⟩ := List.mem_map.1 hpiece
  exact open_toDigits (by decide) (by decide) _

theorem open_ipv6Chars (pieces : List Nat) : Open (ipv6Chars pieces) := by
  have hwrite (ps : List Nat) : Open (joinChars ':' (ps.map Text.hexChars)) := by
    refine open_joinChars (by decide) fun piece hpiece => ?_
    obtain ⟨n, -, rfl⟩ := List.mem_map.1 hpiece
    exact open_toDigits (by decide) (by decide) n
  have hgap : Open [':', ':'] := by decide
  rw [ipv6Chars]
  split
  · exact open_append.2 ⟨open_append.2 ⟨hwrite _, hgap⟩, hwrite _⟩
  · exact hwrite _

theorem bracketed?_open (h : bracketed? s = some t) : Open t := by
  rw [bracketed?] at h
  split at h
  · split at h
    · obtain ⟨pieces, -, rfl⟩ := Option.map_eq_some_iff.1 h
      exact open_cons.2 ⟨by decide, open_append.2 ⟨open_ipv6Chars pieces, by decide⟩⟩
    · cases h
  · cases h

theorem isForbiddenInDomain_of_isEnd (h : isEnd c = true) : isForbiddenInDomain c = true := by
  rcases isEnd_eq_true_iff.1 h with rfl | rfl | rfl <;> decide

theorem domain?_open (h : domain? s = some t) : Open t := by
  simp only [domain?, bind, Option.bind_eq_some_iff] at h
  obtain ⟨normal, -, labels, -, h⟩ := h
  split at h
  next hallowed =>
    cases h
    simp only [Bool.and_eq_true, Bool.not_eq_true', List.any_eq_false] at hallowed
    obtain ⟨⟨⟨-, hallowed⟩, -⟩, -⟩ := hallowed
    intro c hc
    cases hend : isEnd c with
    | false => rfl
    | true => exact absurd (isForbiddenInDomain_of_isEnd hend) (hallowed c hc)
  next => cases h

theorem specialHost?_open (h : specialHost? s = some t) : Open t := by
  rw [specialHost?] at h
  split at h
  · exact bracketed?_open h
  · simp only [bind, Option.bind_eq_some_iff] at h
    obtain ⟨text, -, domain, hdomain, h⟩ := h
    split at h
    · obtain ⟨address, -, h⟩ := Option.bind_eq_some_iff.1 h
      cases h
      exact open_ipv4Chars address
    · cases h
      exact domain?_open hdomain

theorem plainHost?_open (h : plainHost? s = some t) : Open t := by
  rw [plainHost?] at h
  split at h
  · exact bracketed?_open h
  · dsimp only at h
    split at h
    next => cases h
    next hallowed =>
      cases h
      refine open_encode fun c hc hend => absurd (List.any_eq_true.2 ⟨c, hc, ?_⟩) hallowed
      rcases isEnd_eq_true_iff.1 hend with rfl | rfl | rfl <;> decide

/-! ## Authorities -/

theorem Authority.open_chars {a : Authority} (husername : Open a.username)
    (hpassword : Open a.password) (hhost : Open a.host) : Open a.chars := by
  have huser : Open (a.username ++ if a.password.isEmpty then [] else ':' :: a.password) := by
    refine open_append.2 ⟨husername, ?_⟩
    split
    · exact open_nil
    · exact open_cons.2 ⟨by decide, hpassword⟩
  have hcredentials {user : List Char} (h : Open user) :
      Open (if user.isEmpty then [] else user ++ ['@']) := by
    split
    · exact open_nil
    · exact open_append.2 ⟨h, by decide⟩
  rw [Authority.chars]
  refine open_append.2 ⟨open_append.2 ⟨hcredentials huser, hhost⟩, ?_⟩
  split
  next n hport => exact open_cons.2 ⟨by decide, open_toDigits (by decide) (by decide) n⟩
  next => exact open_nil

theorem readAuthority?_open {scheme rest : List Char} {isLast : Bool} {a : Authority}
    (h : readAuthority? scheme isLast s = some (a, rest)) : Open a.chars := by
  rw [readAuthority?] at h
  dsimp only at h
  split at h
  all_goals
    obtain ⟨host, hhost, h⟩ := Option.bind_eq_some_iff.1 h
    have hopen : Open host := by
      first
        | exact specialHost?_open hhost
        | exact plainHost?_open hhost
    split at h
    · cases h
    · obtain ⟨⟨digits, path⟩, -, h⟩ := Option.bind_eq_some_iff.1 h
      obtain ⟨port, -, h⟩ := Option.bind_eq_some_iff.1 h
      cases h
      exact Authority.open_chars (open_encode_userInfo _) (open_encode_userInfo _) hopen

/-! ## Paths -/

theorem not_mem_of_mem_splitAt {separator : Char} {piece : List Char}
    (h : piece ∈ Text.splitAt separator s) : separator ∉ piece := by
  induction s generalizing piece with
  | nil =>
    rw [List.mem_singleton.1 h]
    exact List.not_mem_nil
  | cons c rest ih =>
    rw [Text.splitAt] at h
    split at h
    · rcases List.mem_cons.1 h with rfl | h
      · exact List.not_mem_nil
      · exact ih h
    next hne =>
      rcases hpieces : Text.splitAt separator rest with _ | ⟨first, pieces⟩
      · exact absurd hpieces (Text.splitAt_ne_nil separator rest)
      · rw [hpieces] at h ih
        rcases List.mem_cons.1 h with rfl | h
        · intro hmem
          rcases List.mem_cons.1 hmem with heq | hmem
          · exact hne heq.symm
          · exact ih List.mem_cons_self hmem
        · exact ih (List.mem_cons_of_mem _ h)

theorem pathPieces_open (scheme s : List Char) : ∀ piece ∈ pathPieces scheme s, Open piece := by
  intro piece hpiece
  obtain ⟨text, htext, rfl⟩ := List.mem_map.1 hpiece
  exact open_encode_path (not_mem_of_mem_splitAt htext)

section Segments

variable {segments : List (List Char)} {segment : List Char}

theorem open_shorten (h : ∀ x ∈ segments, Open x) : ∀ x ∈ shorten segments, Open x := by
  intro x hx
  rw [shorten] at hx
  split at hx
  · exact h x hx
  · exact h x ((List.dropLast_sublist segments).subset hx)

theorem open_snoc (h : ∀ x ∈ segments, Open x) (hsegment : Open segment) :
    ∀ x ∈ segments ++ [segment], Open x := by
  intro x hx
  rcases List.mem_append.1 hx with hx | hx
  · exact h x hx
  · rwa [List.mem_singleton.1 hx]

theorem open_addSegment (last : Bool) (h : ∀ x ∈ segments, Open x) (hsegment : Open segment) :
    ∀ x ∈ addSegment last segments segment, Open x := by
  rw [addSegment]
  split
  · dsimp only
    split
    · exact open_snoc (open_shorten h) open_nil
    · exact open_shorten h
  · split
    · split
      · exact open_snoc h open_nil
      · exact h
    · exact open_snoc h hsegment

theorem open_addFileSegment (last : Bool) (h : ∀ x ∈ segments, Open x) (hsegment : Open segment) :
    ∀ x ∈ addFileSegment last segments segment, Open x := by
  rw [addFileSegment]
  split
  · refine List.forall_mem_singleton.2 (open_append.2 ⟨?_, by decide⟩)
    exact hsegment.sub (List.take_subset 1 segment)
  · exact open_addSegment last h hsegment

theorem open_addSegments {add : Bool → List (List Char) → List Char → List (List Char)}
    (hadd : ∀ last segments segment, (∀ x ∈ segments, Open x) → Open segment →
      ∀ x ∈ add last segments segment, Open x)
    {pieces : List (List Char)} (hpieces : ∀ x ∈ pieces, Open x) (h : ∀ x ∈ segments, Open x) :
    ∀ x ∈ addSegments add segments pieces, Open x := by
  fun_induction addSegments add segments pieces with
  | case1 => exact h
  | case2 segments segment => exact hadd true _ _ h (hpieces segment List.mem_cons_self)
  | case3 segments segment rest _ ih =>
    exact ih (fun x hx => hpieces x (List.mem_cons_of_mem _ hx))
      (hadd false _ _ h (hpieces segment List.mem_cons_self))

end Segments

theorem readPath_open (scheme s : List Char) : (readPath scheme s).Open := by
  intro list hlist
  rw [readPath] at hlist
  split at hlist
  · cases hlist
    simp
  · cases hlist
    exact open_addSegments (fun last _ _ => open_addSegment last) (pathPieces_open _ _) (by simp)

theorem readHierarchy?_open {scheme : List Char} {isLast : Bool} {a : Authority} {path : Path}
    (h : readHierarchy? scheme isLast s = some (a, path)) : Open a.chars ∧ path.Open := by
  simp only [readHierarchy?, bind, Option.bind_eq_some_iff] at h
  obtain ⟨⟨authority, front⟩, hauthority, h⟩ := h
  cases h
  exact ⟨readAuthority?_open hauthority, readPath_open scheme _⟩

theorem withoutFront_open {segments : List (List Char)} (h : ∀ x ∈ segments, Open x) :
    (withoutFront segments).Open := by
  intro list hlist
  rw [withoutFront] at hlist
  split at hlist
  · cases hlist
    exact List.forall_mem_singleton.2 open_nil
  next counted hcounted =>
    cases hlist
    intro x hx
    exact h x (List.dropWhile_subset _ hx)

theorem splitFile?_open {host path : List Char} (h : splitFile? s = some (host, path)) :
    Open host := by
  unfold splitFile? at h
  split at h
  · dsimp only at h
    split at h
    · split at h
      · cases h
        exact open_nil
      · split at h
        · cases h
          exact open_nil
        · obtain ⟨read, hread, h⟩ := Option.bind_eq_some_iff.1 h
          split at h
          · cases h
            exact open_nil
          · cases h
            exact specialHost?_open hread
    · cases h
      exact open_nil
  · cases h
    exact open_nil

theorem readFile?_open {a : Authority} {path : Path} (h : readFile? s = some (a, path)) :
    Open a.chars ∧ path.Open := by
  simp only [readFile?, bind, Option.bind_eq_some_iff] at h
  obtain ⟨⟨host, text⟩, hsplit, h⟩ := h
  cases h
  refine ⟨Authority.open_chars open_nil open_nil ?_, withoutFront_open ?_⟩
  · dsimp only
    split
    · exact open_nil
    · exact splitFile?_open hsplit
  · exact open_addSegments (fun last _ _ => open_addFileSegment last) (pathPieces_open _ _)
      (by simp)

theorem readBody?_open {scheme : List Char} {isLast : Bool} {authority : Option Authority}
    {path : Path} (h : readBody? scheme isLast s = some (authority, path)) :
    (∀ a, authority = some a → Open a.chars) ∧ path.Open := by
  have hnone {path : Path} (hpath : path.Open) :
      (∀ a, (none : Option Authority) = some a → Open a.chars) ∧ path.Open := ⟨nofun, hpath⟩
  have hsome {read : Option (Authority × Path)}
      (hread : ∀ a path, read = some (a, path) → Open a.chars ∧ path.Open)
      (h : read.map (fun r => (some r.1, r.2)) = some (authority, path)) :
      (∀ a, authority = some a → Open a.chars) ∧ path.Open := by
    obtain ⟨⟨a, path⟩, hr, h⟩ := Option.map_eq_some_iff.1 h
    cases h
    obtain ⟨ha, hpath⟩ := hread a path hr
    refine ⟨?_, hpath⟩
    rintro _ ⟨⟩
    exact ha
  unfold readBody? at h
  split at h
  · exact hsome (fun _ _ => readFile?_open) h
  · split at h
    · exact hsome (fun _ _ => readHierarchy?_open) h
    · split at h
      · exact hsome (fun _ _ => readHierarchy?_open) h
      · cases h
        exact hnone (readPath_open scheme _)
      · cases h
        exact hnone nofun

/-! ## Schemes -/

/-- Only capital letters lose their case. -/
theorem toLower_eq_or (c : Char) : c.toLower = c ∨ 65 ≤ c.toNat ∧ c.toNat ≤ 90 := by
  by_cases hupper : c.val ≥ 'A'.val ∧ c.val ≤ 'Z'.val
  · exact .inr ⟨UInt32.le_iff_toNat_le.1 hupper.1, UInt32.le_iff_toNat_le.1 hupper.2⟩
  · exact .inl (dif_neg hupper)

/-- Only letters come from letters by losing their case. -/
theorem eq_of_toLower_eq {d : Char} (h : c.toLower = d) (hd : d.isLower = false) : c = d := by
  have hletters : ∀ n < 91, 65 ≤ n → (Char.ofNat n).toLower.isLower = true := by decide
  rcases toLower_eq_or c with hkept | ⟨hfrom, hupto⟩
  · rw [← h, hkept]
  · have hlower := hletters c.toNat (by omega) hfrom
    rw [Char.ofNat_toNat, h, hd] at hlower
    cases hlower

theorem splitScheme_chars {scheme rest : List Char} (h : splitScheme s = some (scheme, rest)) :
    scheme ≠ [] ∧ ∀ c ∈ scheme, c ≠ ':' ∧ c ≠ '/' := by
  have hmark {c : Char} {p : Char → Bool} (hc : p c = true) (hcolon : p ':' = false)
      (hslash : p '/' = false) : c.toLower ≠ ':' ∧ c.toLower ≠ '/' := by
    constructor
    · intro heq
      rw [eq_of_toLower_eq heq rfl, hcolon] at hc
      cases hc
    · intro heq
      rw [eq_of_toLower_eq heq rfl, hslash] at hc
      cases hc
  cases s with
  | nil => cases h
  | cons c s =>
    rw [splitScheme] at h
    split at h
    next halpha =>
      dsimp only at h
      split at h
      · cases h
        refine ⟨List.cons_ne_nil _ _, fun d hd => ?_⟩
        obtain ⟨x, hx, rfl⟩ := List.mem_map.1 hd
        rcases List.mem_cons.1 hx with rfl | hx
        · exact hmark halpha rfl rfl
        · exact hmark (List.all_eq_true.1 List.all_takeWhile x hx) rfl rfl
      · cases h
    next => cases h

theorem ofChars?_wellFormed {u : Url} (h : ofChars? s = some u) : u.WellFormed := by
  simp only [ofChars?, bind, Option.bind_eq_some_iff] at h
  obtain ⟨⟨scheme, rest⟩, hscheme, ⟨authority, path⟩, hbody, h⟩ := h
  cases h
  obtain ⟨hne, hchars⟩ := splitScheme_chars hscheme
  obtain ⟨hauthority, hpath⟩ := readBody?_open hbody
  exact ⟨hne, hchars, hauthority, hpath⟩

end FeatureFlags.Url
