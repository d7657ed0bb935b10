import FeatureFlags.Proofs.Remote.Exchange

/-!
# Delays in seconds

A service that refuses a request may say after how many seconds to come back. Main statement: a
number of seconds below 2^64 is kept to, up to a day (`Service.seconds_kept_to`). A number beyond
that is no integer of 64 bits and no date either, so that the default applies as it does to a text
without a meaning; then a larger number gives a shorter delay (`seconds_forgotten`).
-/
namespace FeatureFlags

namespace Text

theorem isDigit_iff {c : Char} : c.isDigit = true ↔ 48 ≤ c.toNat ∧ c.toNat ≤ 57 := by
  simp [Char.isDigit, UInt32.le_iff_toNat_le]

theorem isBlank_of_isDigit {c : Char} (h : c.isDigit = true) : isBlank c = false := by
  have hcodes : ∀ n < 58, 48 ≤ n → whiteSpace.containsCode n = false := by decide
  obtain ⟨hlow, hhigh⟩ := isDigit_iff.1 h
  exact hcodes c.toNat (by omega) hlow

/-- Further digits only make a number larger. -/
theorem le_ofDigitChars (digits : List Char) (n : Nat) : n ≤ Nat.ofDigitChars 10 digits n := by
  induction digits generalizing n with
  | nil => exact Nat.le_refl n
  | cons c rest ih =>
    have hrest := ih (10 * n + (c.toNat - '0'.toNat))
    rw [Nat.ofDigitChars_cons]
    omega

theorem readUnsigned_digits {digits : List Char} (h : ∀ c ∈ digits, c.isDigit = true) {n : Nat}
    (hn : n < 0x10000000000000000) : readUnsigned n digits =
      if Nat.ofDigitChars 10 digits n < 0x10000000000000000
      then .ok (Nat.ofDigitChars 10 digits n) else .error .tooLarge := by
  induction digits generalizing n with
  | nil => exact (if_pos hn).symm
  | cons c rest ih =>
    obtain ⟨hc, hrest⟩ := List.forall_mem_cons.1 h
    have hbounds : '0' ≤ c ∧ c ≤ '9' := by simpa [Char.isDigit, Char.le_def] using hc
    rw [readUnsigned, if_pos hbounds, Nat.ofDigitChars_cons]
    dsimp only
    split
    next hnext => exact ih hrest hnext
    next hlarge =>
      have hmore := le_ofDigitChars rest (10 * n + (c.toNat - '0'.toNat))
      rw [if_neg (by omega)]

/-- A text of digits is read as their number, or that is too large. -/
theorem unsigned?_digits {digits : List Char} (hne : digits ≠ [])
    (h : ∀ c ∈ digits, c.isDigit = true) : unsigned? digits =
      if Nat.ofDigitChars 10 digits 0 < 0x10000000000000000
      then .ok (Nat.ofDigitChars 10 digits 0) else .error .tooLarge := by
  have hplus : ∀ rest, digits ≠ '+' :: rest := by
    rintro rest rfl
    exact absurd (h '+' List.mem_cons_self) (by decide)
  rw [← readUnsigned_digits h (by decide), unsigned?]
  · exact hne
  · exact hplus []
  · exact hplus

end Text

namespace Date

theorem toLower_of_isDigit {c : Char} (h : c.isDigit = true) : c.toLower = c := by
  have hcode : c.toNat ≤ 57 := (Text.isDigit_iff.1 h).2
  have hupper : ¬(c.val ≥ 'A'.val ∧ c.val ≤ 'Z'.val) := fun hletter => by
    have hfrom : 65 ≤ c.toNat := UInt32.le_iff_toNat_le.1 hletter.1
    omega
  exact dif_neg hupper

/-- No weekday starts with a digit. -/
theorem weekday?_digit {c : Char} (h : c.isDigit = true) (rest : Rest) :
    weekday? (c :: rest) = some (none, c :: rest) := by
  have hnames : ∀ name ∈ weekdayNames, name.toList.head?.any Char.isDigit = false := by decide
  have hfound : name? weekdayNames (c :: rest) = none := by
    rw [name?, Option.map_eq_none_iff, List.findIdx?_eq_none_iff]
    intro name hname
    refine decide_eq_false fun heq => ?_
    have hhead : name.toList.head? = some c := by
      rw [heq, List.take_succ_cons, List.map_cons, toLower_of_isDigit h]
      rfl
    have hletter := hnames name hname
    rw [hhead, Option.any_some, h] at hletter
    cases hletter
  rw [weekday?, hfound]

/-- A date does not start with three digits. -/
theorem moment?_digits {a b c : Char} (ha : a.isDigit = true) (hb : b.isDigit = true)
    (hc : c.isDigit = true) (rest : Rest) : moment? (a :: b :: c :: rest) = none := by
  have htrim : trimStart (a :: b :: c :: rest) = a :: b :: c :: rest := by
    have hseen : ¬Text.isBlank a = true := by
      rw [Text.isBlank_of_isDigit ha]
      decide
    rw [trimStart, Text.trimLeft, List.dropWhile_cons_of_neg hseen]
  have hday : ∃ day, number? 1 2 (a :: b :: c :: rest) = some (day, c :: rest) := by
    simp [number?, digits, List.takeWhile_cons, ha, hb]
  have hspace : space? (c :: rest) = none := by
    rw [space?, Text.isBlank_of_isDigit hc]
    rfl
  obtain ⟨day, hday⟩ := hday
  rw [moment?, htrim, weekday?_digit ha, Option.bind_eq_bind, Option.bind_some]
  dsimp only
  rw [htrim, hday, Option.bind_eq_bind, Option.bind_some]
  dsimp only
  rw [hspace]
  rfl

end Date

namespace Remote

/-- A header that says a number of seconds. -/
def Seconds (header : String) (n : Nat) : Prop :=
  let text := Text.trim header.toList
  text ≠ [] ∧ (∀ c ∈ text, c.isDigit = true) ∧ Nat.ofDigitChars 10 text 0 = n

variable {header header' : String} {n n' : Nat}

/-- A number that needs more than 64 bits has three digits at least. -/
theorem three_digits {text : List Char} (hdigits : ∀ c ∈ text, c.isDigit = true)
    (hlarge : ¬Nat.ofDigitChars 10 text 0 < 0x10000000000000000) :
    ∃ a b c rest, text = a :: b :: c :: rest := by
  rcases text with _ | ⟨a, _ | ⟨b, _ | ⟨c, rest⟩⟩⟩
  · exact absurd (by decide) hlarge
  · have ha := Text.isDigit_iff.1 (hdigits a (by simp))
    simp [Nat.ofDigitChars_cons] at hlarge
    omega
  · have ha := Text.isDigit_iff.1 (hdigits a (by simp))
    have hb := Text.isDigit_iff.1 (hdigits b (by simp))
    simp [Nat.ofDigitChars_cons] at hlarge
    omega
  · exact ⟨a, b, c, rest, rfl⟩

/-- A number of seconds asks for as many seconds, or for the default if it needs more than 64
bits. -/
theorem Seconds.requestedDelay (h : Seconds header n) (now : Nat) :
    requestedDelay (Text.trim header.toList) now =
      if n < 0x10000000000000000 then 1000 * n else defaultRetryDelay := by
  obtain ⟨hne, hdigits, rfl⟩ := h
  rw [Remote.requestedDelay, Text.unsigned?_digits hne hdigits]
  by_cases hsmall : Nat.ofDigitChars 10 (Text.trim header.toList) 0 < 0x10000000000000000
  · rw [if_pos hsmall, if_pos hsmall]
  · obtain ⟨a, b, c, rest, htext⟩ := three_digits hdigits hsmall
    rw [htext] at hdigits
    have hdate : Date.moment? (Text.trim header.toList) = none := by
      rw [htext]
      exact Date.moment?_digits (hdigits a (by simp)) (hdigits b (by simp)) (hdigits c (by simp))
        rest
    rw [if_neg hsmall, if_neg hsmall]
    simp only [hdate]

/-- The delay of a number of seconds is that number up to a day, or a minute if the number needs
more than 64 bits. -/
theorem Seconds.retryDelay (h : Seconds header n) (now : Nat) : retryDelay (some header) now =
    1000 * if n < 0x10000000000000000 then min n 86400 else 60 := by
  rw [Remote.retryDelay, h.requestedDelay]
  split
  · rw [maxRetryDelay]
    omega
  · rfl

/-- Of two numbers of 64 bits the larger one does not give the shorter delay. -/
theorem Seconds.retryDelay_le (h : Seconds header n) (h' : Seconds header' n') (hle : n ≤ n')
    (hfits : n' < 0x10000000000000000) (now : Nat) :
    Remote.retryDelay (some header) now ≤ Remote.retryDelay (some header') now := by
  rw [h.retryDelay, h'.retryDelay, if_pos hfits, if_pos (Nat.lt_of_le_of_lt hle hfits)]
  omega

/-- A refusal whose header says a number of seconds of 64 bits, with white space around it or zeros
in front or without, holds requests back for as many seconds, and for a day at most; so a larger
number of 64 bits never holds them back for less. A number that needs more bits holds them back for
a minute. -/
theorem Service.seconds_kept_to (service : Service) (h : Seconds header n) (flag : String)
    (body : ByteArray) (s : Store) :
    (∃ records, (service.receive flag (.ok ⟨429, some header, body⟩)).on s =
      (.ok (.error Fault.rateLimited.error), { s with
        suspensions := s.suspensions.set service.owner
          (some (s.now + 1000 * if n < 0x10000000000000000 then min n 86400 else 60))
        log := s.log ++ records })) ∧
      ∀ header' n', Seconds header' n' → n ≤ n' → n' < 0x10000000000000000 →
        retryDelay (some header) s.now ≤ retryDelay (some header') s.now := by
  refine ⟨?_, fun header' n' h' hle hfits => h.retryDelay_le h' hle hfits s.now⟩
  rw [← h.retryDelay s.now]
  exact ⟨_, rfl⟩

/-- White space and zeros around a number do not count, and the largest number of 64 bits is a day
for the service as any number of a day or more. -/
theorem Service.seconds_kept_to_padded :
    let service : Service := ⟨0, ⟨['h', 't', 't', 'p'], some ⟨[], [], ['h'], none⟩, false,
      .segments [[]], none, none⟩, [], fun _ => return .ok ⟨429, some "\t007 ", .empty⟩⟩
    let start := Store.fresh 5
    let seen (header : String) : Option Nat :=
      ((service.receive "f" (.ok ⟨429, some header, .empty⟩)).on start).2.suspensions 0
    Seconds "\t007 " 7 ∧ Seconds "18446744073709551615" 18446744073709551615 ∧
      seen "\t007 " = some 7005 ∧ seen "18446744073709551615" = some 86400005 ∧
      retryDelay (some "\t007 ") 5 ≤ retryDelay (some "18446744073709551615") 5 := by
  intro service start seen
  have hfew : Seconds "\t007 " 7 := ⟨by decide, List.all_eq_true.1 (by decide), by decide⟩
  have hmany : Seconds "18446744073709551615" 18446744073709551615 :=
    ⟨by decide, List.all_eq_true.1 (by decide), by decide⟩
  obtain ⟨⟨_, hfewRun⟩, hle⟩ := seconds_kept_to service hfew "f" .empty start
  obtain ⟨⟨_, hmanyRun⟩, -⟩ := seconds_kept_to service hmany "f" .empty start
  have hfewSeen : seen "\t007 " =
      some (5 + 1000 * if 7 < 0x10000000000000000 then min 7 86400 else 60) :=
    congrArg (fun run => run.2.suspensions 0) hfewRun
  have hmanySeen : seen "18446744073709551615" = some (5 + 1000 *
      if 18446744073709551615 < 0x10000000000000000 then min 18446744073709551615 86400 else 60) :=
    congrArg (fun run => run.2.suspensions 0) hmanyRun
  refine ⟨hfew, hmany, ?_, ?_, hle _ _ hmany (by decide) (by decide)⟩
  · rw [hfewSeen, if_pos (by decide)]
    rfl
  · rw [hmanySeen, if_pos (by decide), Nat.min_eq_right (by decide)]

/-- One second more than 64 bits can hold, and the day becomes a minute. -/
theorem seconds_forgotten :
    Seconds "18446744073709551615" 18446744073709551615 ∧
      Seconds "18446744073709551616" 18446744073709551616 ∧
      retryDelay (some "18446744073709551615") 0 = 1000 * 86400 ∧
      retryDelay (some "18446744073709551616") 0 = 1000 * 60 ∧
      retryDelay (some "18446744073709551616") 0 ≠ 1000 * min 18446744073709551616 86400 := by
  have hlargest : Seconds "18446744073709551615" 18446744073709551615 :=
    ⟨by decide, List.all_eq_true.1 (by decide), by decide⟩
  have hlarger : Seconds "18446744073709551616" 18446744073709551616 :=
    ⟨by decide, List.all_eq_true.1 (by decide), by decide⟩
  have hday : retryDelay (some "18446744073709551615") 0 = 1000 * 86400 := by
    rw [hlargest.retryDelay, if_pos (by decide)]
    omega
  have hminute : retryDelay (some "18446744073709551616") 0 = 1000 * 60 := by
    rw [hlarger.retryDelay, if_neg (by decide)]
  refine ⟨hlargest, hlarger, hday, hminute, ?_⟩
  rw [hminute]
  omega

end Remote

end FeatureFlags
