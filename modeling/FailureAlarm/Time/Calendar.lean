/-!
# The proleptic Gregorian calendar

Days are counted from 1970-01-01 (day 0), years may be negative and there is a year 0.
`yearStart` counts the days before a year, `yearOf` finds the year of a day, and the day inside the
year is split by walking the list of month lengths.

The main statement is `yearStart_yearOf_le` with `lt_yearStart_yearOf`: a day lies in exactly the
year that `yearOf` names.
-/

namespace FailureAlarm
namespace Calendar

/-- Every fourth year has a leap day, of the centuries every fourth. -/
def isLeap (year : Int) : Bool :=
  year % 4 = 0 && (year % 100 ≠ 0 || year % 400 = 0)

/-- The lengths of the twelve months of a year. -/
def monthLengths (year : Int) : List Nat :=
  [31, if isLeap year then 29 else 28, 31, 30, 31, 30, 31, 31, 30, 31, 30, 31]

/-- The number of leap days before the first day of `year`, counted from a fixed origin. -/
def leapDaysBefore (year : Int) : Int :=
  (year - 1) / 4 - (year - 1) / 100 + (year - 1) / 400

/-- The first day of `year`; 1970 starts on day 0. -/
def yearStart (year : Int) : Int :=
  365 * (year - 1970) + leapDaysBefore year - 477

/-- The year that holds `day`: a first guess from the mean length of a year, off by at most one. -/
def yearOf (day : Int) : Int :=
  let guess := (day * 400) / 146097 + 1970
  if day < yearStart guess then guess - 1
  else if yearStart (guess + 1) ≤ day then guess + 1
  else guess

theorem yearStart_yearOf_le (day : Int) : yearStart (yearOf day) ≤ day := by
  unfold yearOf
  dsimp only
  split
  · unfold yearStart leapDaysBefore
    omega
  · split
    · assumption
    · omega

theorem lt_yearStart_yearOf (day : Int) : day < yearStart (yearOf day + 1) := by
  unfold yearOf
  dsimp only
  split
  · next h => simpa using h
  · split
    · unfold yearStart leapDaysBefore
      omega
    · omega

/-- Split a day of the year over the months: the number of whole months before it and the days
into its own month. -/
def splitMonths : List Nat → Nat → Nat × Nat
  | [], day => (0, day)
  | length :: lengths, day =>
    if day < length then (0, day)
    else
      let (months, rest) := splitMonths lengths (day - length)
      (months + 1, rest)

/-- A calendar date; months and days count from 1. -/
structure Date where
  year : Int
  month : Nat
  day : Nat
deriving DecidableEq, Repr

/-- The date of a day. -/
def Date.ofDay (day : Int) : Date :=
  let year := yearOf day
  let (months, rest) := splitMonths (monthLengths year) (day - yearStart year).toNat
  ⟨year, months + 1, rest + 1⟩

/-- The month has this day in this year. -/
def Date.Exists (date : Date) : Prop :=
  1 ≤ date.month ∧ date.month ≤ 12 ∧ 1 ≤ date.day ∧
    date.day ≤ (monthLengths date.year).getD (date.month - 1) 0

instance (date : Date) : Decidable date.Exists := by
  unfold Date.Exists; infer_instance

/-- The length of the first `n` months of a year. -/
def daysOfMonths (year : Int) (n : Nat) : Nat := ((monthLengths year).take n).foldl (· + ·) 0

/-- The day of a date. -/
def Date.toDay (date : Date) : Int :=
  yearStart date.year + (daysOfMonths date.year (date.month - 1) + (date.day - 1) : Nat)

example : yearStart 1970 = 0 ∧ yearStart 2000 = 10957 ∧ yearStart 1969 = -365 := by decide
example : (Date.ofDay 19782).toDay = 19782 ∧ Date.ofDay 19782 = ⟨2024, 2, 29⟩ := by decide

end Calendar
end FailureAlarm
