import FailureAlarm.Time.Calendar
import FailureAlarm.Time.Duration

/-!
# Instants

An instant is a number of Unix seconds with nanoseconds. Nanoseconds from `10 ^ 9` up say that the
instant lies in the leap second after the given one, which only the last second of a minute has.
Instants are bounded: the first is the start of the year -262143, the last the end of the year
262142. A value of the type `Instant` carries the proof that it is within these limits.

Instants are ordered by seconds and then by nanoseconds, so a leap second comes after the second
that it belongs to and before the next one.

`shift?` moves an instant by a signed number of nanoseconds, `cutoff` is the start of a trailing
window of whole seconds.
-/

namespace FailureAlarm

namespace Instant

/-- The first representable second. -/
def minSecs : Int := Calendar.yearStart (-262143) * 86400

/-- The last representable second. -/
def maxSecs : Int := Calendar.yearStart 262143 * 86400 - 1

/-- Seconds and nanoseconds that make an instant. -/
structure Valid (secs : Int) (nanos : Nat) : Prop where
  min_le : minSecs ≤ secs
  le_max : secs ≤ maxSecs
  nanos_lt : nanos < 2000000000
  leap : 1000000000 ≤ nanos → secs % 60 = 59

instance (secs : Int) (nanos : Nat) : Decidable (Valid secs nanos) :=
  if h : minSecs ≤ secs ∧ secs ≤ maxSecs ∧ nanos < 2000000000 ∧
      (1000000000 ≤ nanos → secs % 60 = 59) then
    isTrue ⟨h.1, h.2.1, h.2.2.1, h.2.2.2⟩
  else
    isFalse fun v => h ⟨v.min_le, v.le_max, v.nanos_lt, v.leap⟩

end Instant

/-- A point in time: Unix seconds and nanoseconds, see the head of this module. -/
structure Instant where
  secs : Int
  nanos : Nat
  valid : Instant.Valid secs nanos
deriving DecidableEq

namespace Instant

@[ext] theorem ext {a b : Instant} (hs : a.secs = b.secs) (hn : a.nanos = b.nanos) : a = b := by
  cases a; cases b; simp_all

/-- The instant with these parts, if there is one. -/
def ofParts? (secs : Int) (nanos : Nat) : Option Instant :=
  if h : Valid secs nanos then some ⟨secs, nanos, h⟩ else none

@[simp] theorem ofParts?_eq_some {secs : Int} {nanos : Nat} {t : Instant} :
    ofParts? secs nanos = some t ↔ t.secs = secs ∧ t.nanos = nanos := by
  unfold ofParts?
  split
  · next h =>
    constructor
    · intro ht
      cases ht
      exact ⟨rfl, rfl⟩
    · rintro ⟨rfl, rfl⟩
      rfl
  · next h =>
    simp only [reduceCtorEq, false_iff]
    rintro ⟨rfl, rfl⟩
    exact h t.valid

/-- The first instant. -/
def min : Instant := ⟨minSecs, 0, by decide⟩

instance : Inhabited Instant := ⟨⟨0, 0, by decide⟩⟩

/-- The instant lies in a leap second. -/
def IsLeap (t : Instant) : Prop := 1000000000 ≤ t.nanos

instance (t : Instant) : Decidable t.IsLeap := by
  unfold IsLeap; infer_instance

/-! ### Order -/

instance : LT Instant :=
  ⟨fun a b => a.secs < b.secs ∨ (a.secs = b.secs ∧ a.nanos < b.nanos)⟩

instance : LE Instant :=
  ⟨fun a b => a.secs < b.secs ∨ (a.secs = b.secs ∧ a.nanos ≤ b.nanos)⟩

theorem lt_def {a b : Instant} :
    a < b ↔ a.secs < b.secs ∨ (a.secs = b.secs ∧ a.nanos < b.nanos) := Iff.rfl

theorem le_def {a b : Instant} :
    a ≤ b ↔ a.secs < b.secs ∨ (a.secs = b.secs ∧ a.nanos ≤ b.nanos) := Iff.rfl

instance (a b : Instant) : Decidable (a < b) := by
  rw [lt_def]; infer_instance

instance (a b : Instant) : Decidable (a ≤ b) := by
  rw [le_def]; infer_instance

/-! ### Moving -/

/-- The seconds and nanoseconds of a number of nanoseconds. -/
def ofNanoseconds? (total : Int) : Option Instant :=
  ofParts? (total / 1000000000) (total % 1000000000).toNat

/-- The instant `span` nanoseconds later (earlier, if negative).

An instant in a leap second stays in it, or moves into the second before, while less than a second
is added and the result is not past its end. Otherwise the leap second counts as the ordinary second
that it leaves: the one before it when moving forward, the one after it when moving backward. -/
def shift? (t : Instant) (span : Int) : Option Instant :=
  let whole := span.tdiv 1000000000
  if t.IsLeap then
    if 0 < whole ∨ 2000000000 ≤ t.nanos + span then
      ofNanoseconds? (t.secs * 1000000000 + (t.nanos - 1000000000) + span)
    else if whole < 0 then
      ofNanoseconds? ((t.secs + 1) * 1000000000 + (t.nanos - 1000000000) + span)
    else
      ofParts? t.secs (t.nanos + span).toNat
  else
    ofNanoseconds? (t.secs * 1000000000 + t.nanos + span)

/-- The start of the trailing window of `window` seconds that ends at `now`: the instant that much
earlier, or the first instant if there is none so early. -/
def cutoff (now : Instant) (window : Nat) : Instant :=
  (now.shift? (-(window * 1000000000))).getD min

end Instant
end FailureAlarm
