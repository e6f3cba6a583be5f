/-!
# Lengths of time

A length of time is a number of nanoseconds, never negative. The longest one counts `2 ^ 64 - 1`
seconds and one nanosecond less than a second more; a sum that would be longer stays there.
-/

namespace FailureAlarm

/-- A length of time, in nanoseconds. -/
structure Duration where
  nanoseconds : Nat
deriving DecidableEq, Repr, Inhabited

namespace Duration

/-- Nanoseconds in a second. -/
def perSecond : Nat := 1000000000

/-- The longest length of time. -/
def max : Duration := ⟨18446744073709551615 * perSecond + 999999999⟩

def ofSeconds (seconds : Nat) : Duration := ⟨seconds * perSecond⟩

def ofMillis (millis : Nat) : Duration := ⟨millis * 1000000⟩

/-- Whole seconds, rounded down. -/
def seconds (d : Duration) : Nat := d.nanoseconds / perSecond

/-- What is left beside the whole seconds, in nanoseconds. -/
def subsecond (d : Duration) : Nat := d.nanoseconds % perSecond

/-- The sum, or the longest length of time if the sum is longer. -/
def saturatingAdd (a b : Duration) : Duration :=
  if a.nanoseconds + b.nanoseconds ≤ max.nanoseconds then ⟨a.nanoseconds + b.nanoseconds⟩ else max

example : max.seconds = 18446744073709551615 ∧ max.subsecond = 999999999 := by decide

end Duration
end FailureAlarm
