import FailureAlarm.Proofs.Cutoff
import FailureAlarm.Store
import Mathlib.Algebra.Ring.Nat
import Mathlib.Data.List.DropRight
import Mathlib.Data.List.Induction
import Mathlib.Order.MinMax

/-!
# A store and its history

A store takes part in any history of appends, prunes, clears and drains. The failures need not come in
the order of their times, and the cutoffs need not be in any order either, so a prune may take failures
out of any places of the store. What is left at the end can be read off the history without following
the store through it: a failure is there if nothing has emptied the store since it was appended, and it
is later than all the cutoffs since then (`outliving`).

One more operation at the end of a history does to this list what it does to the store
(`outliving_append`), so the two are the same after every history (`failures_built`). Besides, no
operation loses a failure without an account of it (`size_step`, `size_add_appends`).
-/

namespace FailureAlarm
namespace Store

/-! ### Histories -/

/-- What can be done to a store. -/
inductive Op where
  | append (f : Failure)
  | prune (cutoff : Instant)
  | clear
  | drain

/-- What an operation answers. -/
inductive Reply where
  | silent
  | removed (count : Nat)
  | drained (failures : List Failure)
deriving DecidableEq

/-- Do one thing to a store. -/
def step (s : Store) : Op → Store × Reply
  | .append f => (s.append f, .silent)
  | .prune cutoff => ((s.prune cutoff).1, .removed (s.prune cutoff).2)
  | .clear => (s.clear, .silent)
  | .drain => (s.drain.1, .drained s.drain.2)

/-- The store that a history makes of another one. -/
def afterwards (s : Store) (ops : List Op) : Store := ops.foldl (fun s op => (s.step op).1) s

/-- The store that a history makes of a new one. -/
def built (ops : List Op) : Store := afterwards {} ops

theorem built_concat (ops : List Op) (op : Op) :
    built (ops ++ [op]) = ((built ops).step op).1 := List.foldl_concat ..

/-- One operation of a history, with the store that it found and what it answered. -/
structure Turn where
  before : Store
  op : Op
  reply : Reply

/-- The operations of a history, one after the other. -/
def turns (s : Store) : List Op → List Turn
  | [] => []
  | op :: ops => ⟨s, op, (s.step op).2⟩ :: turns (s.step op).1 ops

/-! ### What a history leaves -/

namespace Op

/-- The operation empties the store. -/
def empties : Op → Bool
  | clear => true
  | drain => true
  | _ => false

def isAppend : Op → Bool
  | append _ => true
  | _ => false

def cutoff? : Op → Option Instant
  | prune cutoff => some cutoff
  | _ => none

end Op

/-- The part of a history after the store was emptied for the last time. -/
def sinceEmptied (ops : List Op) : List Op := ops.rtakeWhile fun op => !op.empties

/-- The failure is later than every cutoff in a history. -/
def Outlives (f : Failure) (later : List Op) : Prop := ∀ c ∈ later.filterMap Op.cutoff?, c < f.time

instance (f : Failure) (later : List Op) : Decidable (Outlives f later) := by
  unfold Outlives; infer_instance

/-- The failures appended in a history that are later than every cutoff after their own append, in the
order of their appends. -/
def outliving : List Op → List Failure
  | [] => []
  | .append f :: later => if Outlives f later then f :: outliving later else outliving later
  | _ :: later => outliving later

/-- Of two failures, the one appended last is dropped by a cutoff that the other one outlives. -/
example :
    let late : Failure := .observed ⟨59, 1500000000, by decide⟩ none none none {}
    let early : Failure := .observed ⟨59, 0, by decide⟩ none none none {}
    outliving [.append early, .append late, .append early, .prune ⟨59, 1000000000, by decide⟩,
      .append early] = [late, early] := by decide

/-- What has happened since the store was emptied goes on until it is emptied again. -/
theorem sinceEmptied_concat (ops : List Op) (op : Op) :
    sinceEmptied (ops ++ [op]) = if op.empties then [] else sinceEmptied ops ++ [op] := by
  unfold sinceEmptied
  rw [List.rtakeWhile_concat]
  cases op.empties <;> rfl

theorem outlives_append {f : Failure} {xs ys : List Op} :
    Outlives f (xs ++ ys) ↔ Outlives f xs ∧ Outlives f ys := by
  unfold Outlives
  rw [List.filterMap_append, List.forall_mem_append]

/-- What is left after more operations: the failures from before that outlive these, and their own. -/
theorem outliving_append (xs ys : List Op) :
    outliving (xs ++ ys) = (outliving xs).filter (Outlives · ys) ++ outliving ys := by
  induction xs with
  | nil => rfl
  | cons x xs ih =>
      cases x with
      | append f =>
          rw [List.cons_append, outliving, outliving, ih]
          by_cases hxs : Outlives f xs
          · by_cases hys : Outlives f ys
            · rw [if_pos (outlives_append.mpr ⟨hxs, hys⟩), if_pos hxs,
                List.filter_cons_of_pos (by simpa using hys), List.cons_append]
            · rw [if_neg fun h => hys (outlives_append.mp h).2, if_pos hxs,
                List.filter_cons_of_neg (by simpa using hys)]
          · rw [if_neg fun h => hxs (outlives_append.mp h).1, if_neg hxs]
      | _ => exact ih

theorem outliving_append_one (ops : List Op) (f : Failure) :
    outliving (ops ++ [.append f]) = outliving ops ++ [f] := by
  have hsame : ∀ g, Outlives g [.append f] := by
    intro g c hc
    cases hc
  have hall : (outliving ops).filter (Outlives · [.append f]) = outliving ops :=
    List.filter_eq_self.mpr fun g _ => decide_eq_true (hsame g)
  rw [outliving_append, hall]
  rfl

/-- To prune is to leave out the failures at or before the cutoff. -/
theorem outliving_prune (ops : List Op) (cutoff : Instant) :
    outliving (ops ++ [.prune cutoff]) = (outliving ops).filter fun f => cutoff < f.time := by
  have hsame : ∀ f, Outlives f [.prune cutoff] ↔ cutoff < f.time := by
    intro f
    exact List.forall_mem_singleton
  rw [outliving_append, List.filter_congr fun f _ => decide_eq_decide.mpr (hsame f)]
  exact List.append_nil _

/-- **What a store holds is what its history leaves.** -/
theorem failures_built (ops : List Op) : (built ops).failures = outliving (sinceEmptied ops) := by
  induction ops using List.reverseRecOn with
  | nil => rfl
  | append_singleton ops op ih =>
      rw [built_concat, sinceEmptied_concat]
      cases op with
      | append f =>
          show (built ops).failures ++ [f] = outliving (sinceEmptied ops ++ [.append f])
          rw [outliving_append_one, ih]
      | prune cutoff =>
          show (built ops).failures.filter _ = outliving (sinceEmptied ops ++ [.prune cutoff])
          rw [outliving_prune, ih]
      | clear => rfl
      | drain => rfl

/-! ### Accounts -/

namespace Turn

/-- The result of a prune. -/
def pruned? (t : Turn) : Option Nat :=
  match t.reply with
  | .removed count => some count
  | _ => none

/-- The number of failures that a drain handed over. -/
def drained? (t : Turn) : Option Nat :=
  match t.reply with
  | .drained failures => some failures.length
  | _ => none

/-- The size of a store that was cleared. -/
def cleared? (t : Turn) : Option Nat :=
  match t.op with
  | .clear => some t.before.size
  | _ => none

end Turn

/-- The sum of the numbers that some of the turns come with. -/
def total (number? : Turn → Option Nat) (ts : List Turn) : Nat := (ts.filterMap number?).sum

theorem total_cons (number? : Turn → Option Nat) (t : Turn) (ts : List Turn) :
    total number? (t :: ts) = (number? t).getD 0 + total number? ts := by
  unfold total
  rw [List.filterMap_cons]
  cases number? t with
  | none => exact (Nat.zero_add _).symm
  | some n => exact List.sum_cons

/-- A prune counts the failures at or before its cutoff. -/
theorem prune_snd (s : Store) (cutoff : Instant) :
    (s.prune cutoff).2 = s.failures.countP fun f => f.time ≤ cutoff := by
  have hsplit := List.length_eq_countP_add_countP (fun f : Failure => decide (cutoff < f.time))
    (l := s.failures)
  have hrest : s.failures.countP (fun f => decide (¬ decide (cutoff < f.time) = true)) =
      s.failures.countP fun f => f.time ≤ cutoff :=
    List.countP_congr fun f _ => by simp
  rw [hrest, List.countP_eq_length_filter] at hsplit
  show s.failures.length - (s.failures.filter fun f => cutoff < f.time).length = _
  omega

/-- What an operation takes out of the store, it gives account of. -/
theorem size_step (s : Store) (op : Op) :
    let t : Turn := ⟨s, op, (s.step op).2⟩
    s.size + (if op.isAppend then 1 else 0) =
      t.pruned?.getD 0 + t.drained?.getD 0 + t.cleared?.getD 0 + (s.step op).1.size := by
  cases op with
  | append f =>
      show s.size + 1 = 0 + 0 + 0 + (s.failures ++ [f]).length
      rw [List.length_append, Nat.zero_add]
      rfl
  | prune cutoff =>
      show s.size + 0 = (s.prune cutoff).2 + 0 + 0 + (s.prune cutoff).1.size
      have hsize := s.size_after_add_pruned cutoff
      omega
  | clear =>
      show s.size + 0 = 0 + 0 + s.size + 0
      omega
  | drain =>
      show s.size + 0 = 0 + s.size + 0 + 0
      omega

/-- **Every failure that was appended is accounted for.** -/
theorem size_add_appends (s : Store) (ops : List Op) :
    s.size + ops.countP Op.isAppend =
      total Turn.pruned? (s.turns ops) + total Turn.drained? (s.turns ops) +
        total Turn.cleared? (s.turns ops) + (s.afterwards ops).size := by
  induction ops generalizing s with
  | nil => exact (Nat.zero_add _).symm
  | cons op ops ih =>
      have hstep := s.size_step op
      have hrest := ih (s.step op).1
      have hlater : s.afterwards (op :: ops) = (s.step op).1.afterwards ops := rfl
      rw [turns, total_cons, total_cons, total_cons, List.countP_cons, hlater]
      omega

/-! ### Two prunes in a row -/

/-- Of two cutoffs the later one decides. -/
theorem after_after (s : Store) (a b : Instant) : (s.after a).after b = s.after (max a b) := by
  unfold after
  rw [List.filter_filter]
  congr 2
  funext f
  rw [← Bool.decide_and, decide_eq_decide, max_lt_iff, and_comm]

/-- Two prunes do what one at the later of the two cutoffs does, and count the same. -/
theorem prune_prune (s : Store) (a b : Instant) :
    ((s.prune a).1.prune b).1 = (s.prune (max a b)).1 ∧
      (s.prune a).2 + ((s.prune a).1.prune b).2 = (s.prune (max a b)).2 := by
  have hstore : ((s.prune a).1.prune b).1 = (s.prune (max a b)).1 := s.after_after a b
  refine ⟨hstore, ?_⟩
  have hfirst := s.size_after_add_pruned a
  have hsecond := (s.prune a).1.size_after_add_pruned b
  have hboth := s.size_after_add_pruned (max a b)
  rw [hstore] at hsecond
  omega

/-! ### The whole -/

/-- **A store is determined by its history.** After any history of a new store, with times and cutoffs in
any order, it holds the failures that were appended after it was emptied for the last time and are later
than every cutoff since their append, in the order of their appends. A prune answers how many failures
it removes, which are those at or before its cutoff. A drain hands over what the store holds, and leaves
it empty. The failures appended are as many as were pruned, drained, held at the clears, and are left.
Two prunes, in either order, are one prune at the later cutoff. -/
theorem determined_by_history (ops : List Op) :
    let s := built ops
    s.failures = outliving (sinceEmptied ops) ∧
      (∀ cutoff, let r := s.step (.prune cutoff)
        r.2 = .removed (s.failures.countP fun f => f.time ≤ cutoff) ∧
        r.1.size + (s.failures.countP fun f => f.time ≤ cutoff) = s.size) ∧
      s.step .drain = ({}, .drained s.failures) ∧
      ops.countP Op.isAppend =
        total Turn.pruned? (turns {} ops) + total Turn.drained? (turns {} ops) +
          total Turn.cleared? (turns {} ops) + s.size ∧
      ∀ a b, let once := s.prune (max a b)
        ((s.prune a).1.prune b).1 = once.1 ∧ (s.prune a).2 + ((s.prune a).1.prune b).2 = once.2 ∧
        ((s.prune b).1.prune a).1 = once.1 ∧ (s.prune b).2 + ((s.prune b).1.prune a).2 = once.2 := by
  intro s
  refine ⟨failures_built ops, fun cutoff => ?_, rfl, ?_, fun a b => ?_⟩
  · have hsize := s.size_after_add_pruned cutoff
    rw [prune_snd] at hsize
    exact ⟨congrArg Reply.removed (s.prune_snd cutoff), hsize⟩
  · have hbalance := size_add_appends {} ops
    rw [show ({} : Store).size = 0 from rfl, Nat.zero_add] at hbalance
    exact hbalance
  -- Two prunes in either order are one with the later cutoff.
  · obtain ⟨hstore, hcount⟩ := s.prune_prune a b
    obtain ⟨hstore', hcount'⟩ := s.prune_prune b a
    rw [max_comm] at hstore' hcount'
    exact ⟨hstore, hcount, hstore', hcount'⟩

end Store
end FailureAlarm
