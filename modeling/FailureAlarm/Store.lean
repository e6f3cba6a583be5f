import FailureAlarm.Failure

/-!
# The store of retained failures

Failures in the order in which they were recorded, the oldest first. `prune` drops those at or
before a cutoff and says how many they were; the order of the others stays.
-/

namespace FailureAlarm

/-- The retained failures, the oldest record first. -/
structure Store where
  failures : List Failure := []
deriving DecidableEq, Inhabited

namespace Store

/-- Add a failure at the end. -/
def append (s : Store) (f : Failure) : Store := ⟨s.failures ++ [f]⟩

/-- The failures later than `cutoff`. -/
def after (s : Store) (cutoff : Instant) : Store :=
  ⟨s.failures.filter fun f => cutoff < f.time⟩

/-- The number of retained failures. -/
def size (s : Store) : Nat := s.failures.length

def isEmpty (s : Store) : Bool := s.failures.isEmpty

/-- Drop the failures at or before `cutoff`, and count them. -/
def prune (s : Store) (cutoff : Instant) : Store × Nat :=
  (s.after cutoff, s.size - (s.after cutoff).size)

def clear (_ : Store) : Store := {}

/-- Empty the store and hand over what it held. -/
def drain (s : Store) : Store × List Failure := ({}, s.failures)

/-- The last `n` failures, or all if there are fewer. -/
def recent (s : Store) (n : Nat) : List Failure := s.failures.drop (s.size - n)

/-! ### One lemma per operation -/

@[simp] theorem failures_append (s : Store) (f : Failure) :
    (s.append f).failures = s.failures ++ [f] := rfl

@[simp] theorem failures_after (s : Store) (cutoff : Instant) :
    (s.after cutoff).failures = s.failures.filter fun f => cutoff < f.time := rfl

@[simp] theorem prune_fst (s : Store) (cutoff : Instant) : (s.prune cutoff).1 = s.after cutoff := rfl

/-- What is left and what is dropped add up to what was there. -/
theorem size_after_add_pruned (s : Store) (cutoff : Instant) :
    (s.prune cutoff).1.size + (s.prune cutoff).2 = s.size := by
  have h : (s.after cutoff).size ≤ s.size := List.length_filter_le _ _
  simp only [prune]
  omega

end Store
end FailureAlarm
