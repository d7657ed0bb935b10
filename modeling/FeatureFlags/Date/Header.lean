import FeatureFlags.Date.Calendar
import FeatureFlags.Text.Pieces

/-!
# Dates of message headers

A date as message headers carry it, such as `Wed, 21 Oct 2015 07:28:00 GMT`. The weekday may be
missing but not wrong, years may have two or three digits, seconds may be missing or count a leap
second, the zone is an offset or one of a few names, and comments may follow.
-/
namespace FeatureFlags.Date

/-- A moment: the second since 1970 in which it lies, and whether it is the leap second that follows
that second. -/
structure Moment where
  second : Int
  leap : Bool

abbrev Rest := List Char

def trimStart (s : Rest) : Rest := Text.trimLeft s

/-- White space that has to be there. -/
def space? (s : Rest) : Option Rest :=
  match s with
  | c :: _ => if Text.isBlank c then some (trimStart s) else none
  | [] => none

def digits (s : Rest) : Rest := s.takeWhile Char.isDigit

/-- A number of at least `min` and at most `max` digits. -/
def number? (min max : Nat) (s : Rest) : Option (Nat × Rest) :=
  let taken := (digits s).take max
  if taken.length < min then none
  else some (taken.foldl (fun n c => 10 * n + (c.toNat - '0'.toNat)) 0, s.drop taken.length)

def char? (c : Char) : Rest → Option Rest
  | d :: rest => if d = c then some rest else none
  | [] => none

/-- The place in a list of names of the one that starts a text; case does not count. -/
def name? (names : List String) (s : Rest) : Option (Nat × Rest) :=
  let lower := (s.take 3).map Char.toLower
  (names.findIdx? (·.toList = lower)).map (·, s.drop 3)

def weekdayNames : List String := ["mon", "tue", "wed", "thu", "fri", "sat", "sun"]

def monthNames : List String :=
  ["jan", "feb", "mar", "apr", "may", "jun", "jul", "aug", "sep", "oct", "nov", "dec"]

/-- Hours east of Greenwich of a named zone. A letter of the military zones counts as zero. -/
def zoneHours? (name : List Char) : Option Int :=
  match String.ofList (name.map Char.toLower) with
  | "gmt" | "ut" | "z" => some 0
  | "edt" => some (-4)
  | "est" | "cdt" => some (-5)
  | "cst" | "mdt" => some (-6)
  | "mst" | "pdt" => some (-7)
  | "pst" => some (-8)
  | _ =>
    match name with
    | [c] => if c.toLower = 'j' then none else some 0
    | _ => none

/-- Seconds east of Greenwich. -/
def zone? (s : Rest) : Option (Int × Rest) :=
  match s.takeWhile Char.isAlpha with
  | [] => do
    let (sign, s) ← match s with
      | '+' :: rest => some ((1 : Int), rest)
      | '-' :: rest => some (-1, rest)
      | _ => none
    let (hours, s) ← number? 2 2 s
    let (minutes, s) ← number? 2 2 s
    if minutes < 60 then return (sign * (3600 * hours + 60 * minutes : Nat), s) else none
  | name => (zoneHours? name).map fun h => (3600 * h, s.drop name.length)

/-- What follows a comment of some depth. -/
def afterComment? : Nat → Rest → Option Rest
  | _, [] => none
  | depth, '\\' :: _ :: rest => afterComment? depth rest
  | depth, '(' :: rest => afterComment? (depth + 1) rest
  | depth, ')' :: rest => if depth ≤ 1 then some rest else afterComment? (depth - 1) rest
  | depth, _ :: rest => afterComment? depth rest

/-- Comments, one behind the other. -/
def dropComments : Nat → Rest → Rest
  | 0, s => s
  | fuel + 1, s =>
    match trimStart s with
    | '(' :: rest => match afterComment? 1 rest with
      | some rest => dropComments fuel rest
      | none => s
    | _ => s

/-- Years of two digits lie between 1950 and 2049, years of three digits count from 1900. -/
def fullYear (length year : Nat) : Nat :=
  match length with
  | 2 => if year < 50 then year + 2000 else year + 1900
  | 3 => year + 1900
  | _ => year

def weekday? (s : Rest) : Option (Option Nat × Rest) :=
  match name? weekdayNames s with
  | some (day, rest) => (char? ',' rest).map (some day, ·)
  | none => some (none, s)

def second? (s : Rest) : Option (Nat × Rest) :=
  match char? ':' (trimStart s) with
  | some rest => number? 2 2 rest
  | none => some (0, s)

def moment? (text : List Char) : Option Moment := do
  let (weekdayName, s) ← weekday? (trimStart text)
  let (day, s) ← number? 1 2 (trimStart s)
  let s ← space? s
  let (month, s) ← name? monthNames s
  let s ← space? s
  let yearLength := (digits s).length
  let (year, s) ← number? 2 yearLength s
  let year := fullYear yearLength year
  let s ← space? s
  let (hour, s) ← number? 2 2 s
  let s ← char? ':' (trimStart s)
  let (minute, s) ← number? 2 2 (trimStart s)
  let (second, s) ← second? s
  let s ← space? s
  let (offset, s) ← zone? s
  let s := dropComments s.length s
  let dayNumber ← dayNumber? year (month + 1) day
  let agrees := weekdayName.all fun w => weekday dayNumber = w
  if s.isEmpty ∧ agrees ∧ year ≤ 262142 ∧ hour < 24 ∧ minute < 60 ∧ second ≤ 60 ∧
      offset.natAbs < 86400 then
    let time := 3600 * hour + 60 * minute + min second 59
    return ⟨86400 * dayNumber + time - offset, second = 60⟩
  else none

/-- Milliseconds from now until a moment, none if it is over. A leap second counts unless its time
of day is earlier than the present one. -/
def Moment.delay (m : Moment) (now : Nat) : Nat :=
  let present : Int := (now / 1000 : Nat)
  let leap : Int := if m.leap ∧ present % 86400 ≤ m.second % 86400 then 1000 else 0
  (1000 * m.second + leap - now).toNat

end FeatureFlags.Date
