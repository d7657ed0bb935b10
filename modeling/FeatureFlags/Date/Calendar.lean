/-!
# Calendar

Days of the calendar that is in use today, counted from the first of January 1970, for all years
from zero on.
-/
namespace FeatureFlags.Date

def isLeapYear (year : Nat) : Bool := year % 4 == 0 && (year % 100 != 0 || year % 400 == 0)

def monthLengths (year : Nat) : List Nat :=
  [31, if isLeapYear year then 29 else 28, 31, 30, 31, 30, 31, 31, 30, 31, 30, 31]

/-- Days from the start of year zero to the start of a year. -/
def daysBeforeYear (year : Nat) : Nat :=
  365 * year + (year + 3) / 4 - (year + 99) / 100 + (year + 399) / 400

/-- Days from the start of a year to the start of a month. -/
def daysBeforeMonth (year month : Nat) : Nat :=
  ((monthLengths year).take (month - 1)).foldl (· + ·) 0

/-- The day's number, if the date exists; months and days count from one. -/
def dayNumber? (year month day : Nat) : Option Int :=
  match (monthLengths year)[month - 1]? with
  | some length =>
    if 1 ≤ month ∧ 1 ≤ day ∧ day ≤ length then
      let days := daysBeforeYear year + daysBeforeMonth year month + (day - 1)
      some ((days : Int) - daysBeforeYear 1970)
    else none
  | none => none

/-- Days since the last Monday. -/
def weekday (dayNumber : Int) : Int := (dayNumber + 3) % 7

end FeatureFlags.Date
