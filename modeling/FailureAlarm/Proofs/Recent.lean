import FailureAlarm.Digest
import FailureAlarm.Proofs.History

/-!
# The digest and the most recent failures

A store shows its most recent failures by passing over the others, and a digest is made of a slice of the
failures that the store has handed over. Either way the place where they start is the number of failures
less the number wanted, or zero. In words of 64 bits that number never drops below zero, and the slice
never starts past the end (`slice?_start`).

Both show the same, which can also be had by reading from the end (`lines_eq_reverse`): as many lines as
there are, up to the number wanted, the last of them being that of the failure appended last
(`getLast?_lines`). A longer digest goes on where a shorter one starts (`lines_suffix`).
-/

namespace FailureAlarm
namespace Digest

/-! ### The last lines -/

/-- The last failures are the first ones when read from the end. -/
theorem lines_eq_reverse (failures : List Failure) (limit : Nat) :
    lines failures limit = (failures.reverse.take limit).reverse.map line := by
  unfold lines
  rw [List.take_reverse, List.reverse_reverse]

theorem getLast?_lines (failures : List Failure) {limit : Nat} (h : 1 ≤ limit) :
    (lines failures limit).getLast? = failures.getLast?.map line := by
  rw [lines_eq_reverse, List.getLast?_map, List.getLast?_reverse, List.head?_take,
    if_neg (by omega), List.head?_reverse]

/-- A digest with fewer lines is the end of one with more lines. -/
theorem lines_suffix (failures : List Failure) {m n : Nat} (h : m ≤ n) :
    lines failures m <:+ lines failures n := by
  have hstart : failures.length - m = failures.length - n +
      (failures.length - m - (failures.length - n)) := by omega
  unfold lines
  rw [hstart, ← List.drop_drop]
  exact (List.drop_suffix _ _).map line

/-! ### In words of 64 bits -/

/-- The place at which the last `wanted` of `size` things start. -/
def start (size wanted : UInt64) : UInt64 := if wanted ≤ size then size - wanted else 0

theorem toNat_start (size wanted : UInt64) :
    (start size wanted).toNat = size.toNat - wanted.toNat := by
  unfold start
  split
  · next h => exact UInt64.toNat_sub_of_le _ _ h
  · next h =>
      rw [UInt64.not_le, UInt64.lt_iff_toNat_lt] at h
      show 0 = _
      omega

/-- The part of a list from a place on. There is none from a place past its end. -/
def slice? {α : Type} (xs : List α) (place : UInt64) : Option (List α) :=
  if place.toNat ≤ xs.length then some (xs.drop place.toNat) else none

/-- The slice of the last things never starts past the end. -/
theorem slice?_start {α : Type} {xs : List α} (h : xs.length < UInt64.size) (wanted : UInt64) :
    slice? xs (start (.ofNat xs.length) wanted) =
      some (xs.drop (xs.length - wanted.toNat)) := by
  have hsize : (UInt64.ofNat xs.length).toNat = xs.length := UInt64.toNat_ofNat_of_lt' h
  unfold slice?
  rw [toNat_start, hsize, if_pos (Nat.sub_le _ _)]

end Digest

namespace Store

open Digest

/-- **The digest shows what the store shows.** After any history of a store, the lines of the `n` most
recent failures are those of the digest of `n` lines over all that a drain would hand over. There are as
many of them as the store holds, but at most `n`. If there are any, the last is that of the failure
appended last of those that the history has left. A digest with fewer lines is the end of one with more.
For any number of lines in 64 bits, and a size in 64 bits, the place at which the lines start is computed
in 64 bits, and is a place of the list. -/
theorem digest_of_recent (ops : List Op) :
    let s := built ops
    (∀ n, let shown := Digest.lines s.drain.2 n
      (s.recent n).map line = shown ∧
        shown = (s.failures.reverse.take n).reverse.map line ∧
        shown.length = min n s.size ∧
        (1 ≤ n → s.isEmpty = false → ∃ f,
          (outliving (sinceEmptied ops)).getLast? = some f ∧ shown.getLast? = some (line f)) ∧
        ∀ m ≤ n, Digest.lines s.drain.2 m <:+ shown) ∧
      (s.size < UInt64.size → ∀ n : UInt64, let place := start (.ofNat s.size) n
        place.toNat = s.size - n.toNat ∧
          slice? s.drain.2 place = some (s.recent n.toNat) ∧
          (slice? s.drain.2 place).map (·.map line) = some (Digest.lines s.drain.2 n.toNat)) := by
  intro s
  refine ⟨fun n => ⟨rfl, lines_eq_reverse _ n, length_lines _ n, ?_, ?_⟩, fun hsize n => ?_⟩
  · intro hn hfull
    have hsome : s.failures ≠ [] := by
      intro hempty
      rw [isEmpty, hempty] at hfull
      cases hfull
    have hlast := List.getLast?_eq_some_getLast hsome
    refine ⟨s.failures.getLast hsome, ?_, ?_⟩
    · rw [← failures_built]
      exact hlast
    · exact (getLast?_lines _ hn).trans (congrArg (Option.map line) hlast)
  · intro m hm
    exact lines_suffix _ hm
  -- The difference that saturates, in words of 64 bits, is the one of natural numbers.
  · have hlength : (UInt64.ofNat s.size).toNat = s.size := UInt64.toNat_ofNat_of_lt' hsize
    have hslice : slice? s.drain.2 (start (.ofNat s.size) n) = some (s.recent n.toNat) :=
      slice?_start hsize n
    refine ⟨?_, hslice, ?_⟩
    · rw [toNat_start, hlength]
    · rw [hslice]
      rfl

end Store
end FailureAlarm
