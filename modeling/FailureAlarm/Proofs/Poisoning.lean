import FailureAlarm.Proofs.Burst
import FailureAlarm.Proofs.Interleaving
import FailureAlarm.Proofs.Ledger

/-!
# A store that cannot be used any more

A clock that fails while a call holds the store poisons it. The call has done nothing to the store by
then, since the clock is read before all else, and from then on every call is turned away before it
could (`frozen_after`). What goes on around the store goes on as before: a failure without a payload
is refused before the store is asked for, pages under way come to their ends, and other pages are
handed over (`stillPages`).

There is no other way into this state (`poisoned_step`), and so no call is ever turned away as long as
the clock does not fail.
-/

namespace FailureAlarm
namespace Alarm

variable {a : Alarm} {s : State}

/-! ### The call in which the clock fails -/

/-- Calls are turned away, and change nothing and hand out nothing. -/
structure Locked (a : Alarm) (s : State) : Prop where
  record : ∀ reading p, a.step s (.record reading ⟨some p⟩) =
    (s, .record (.finished (.error .storeLocked)), {})
  retained : ∀ reading, a.step s (.retained reading) =
    (s, .retained (.finished (.error .storeLocked)), {})
  missing : ∀ reading, a.step s (.record reading ⟨none⟩) =
    (s, .record (.finished (.error .missingPayload)), {})

/-- A call finds the lock poisoned before it does anything else; only a payload is asked for earlier. -/
theorem locked_of_poisoned (hs : s.poisoned = true) : Locked a s := by
  constructor
  · intro reading p
    simp [step, Alarm.record, hs]
  · intro reading
    simp [step, Alarm.retained, hs]
  · intro reading
    rfl

theorem Locked.call (h : Locked a s) {op : Op} (hop : op.isCall = true) : (a.step s op).1 = s := by
  cases op with
  | record reading n =>
      obtain ⟨_ | p⟩ := n
      · rw [h.missing]
      · rw [h.record]
  | retained reading => rw [h.retained]
  | _ => cases hop

/-- The state cannot be used any more, and holds and counts the same failures as `s`. -/
structure Frozen (s t : State) : Prop where
  poisoned : t.poisoned = true
  store : t.store = s.store
  recorded : t.metrics.recorded = s.metrics.recorded
  retained : t.metrics.retained = s.metrics.retained

/-- Calls change nothing any more, and other steps do not touch the store. -/
theorem Frozen.step {t : State} (h : Frozen s t) (op : Op) : Frozen s (a.step t op).1 := by
  cases hop : op.isCall with
  | false =>
      obtain ⟨hstore, hpoisoned, hrecorded, hretained, -⟩ := a.step_elsewhere t hop
      exact ⟨hpoisoned.trans h.poisoned, hstore.trans h.store, hrecorded.trans h.recorded,
        hretained.trans h.retained⟩
  | true =>
      rw [(locked_of_poisoned h.poisoned).call hop]
      exact h

/-- The call was turned away since the store cannot be used. -/
def Reply.IsLocked (reply : Reply) : Prop :=
  reply = .record (.finished (.error .storeLocked)) ∨
    reply = .retained (.finished (.error .storeLocked))

/-- A call that finds the lock free is not turned away. -/
theorem not_locked_of_open (hs : s.poisoned = false) {op : Op} (hop : op.isCall = true) :
    ¬ (a.step s op).2.1.IsLocked := by
  cases op with
  | record reading n =>
      rw [step_record]
      have hspec := a.record_spec reading n s
      generalize a.record reading n s = r at hspec ⊢
      cases hspec with
      | locked hlocked => rw [hs] at hlocked; cases hlocked
      | _ => rintro (h | h) <;> cases h
  | retained reading =>
      rw [step_retained]
      have hspec := a.retained_spec reading s
      generalize a.retained reading s = r at hspec ⊢
      cases hspec with
      | locked hlocked => rw [hs] at hlocked; cases hlocked
      | _ => rintro (h | h) <;> cases h
  | _ => cases hop

/-- The end of a sending never tells that the store cannot be used. -/
theorem answer_ne_locked (result : Except PagingError Unit) (sender : Sender) :
    State.answer result sender ≠ .alarm (.error .storeLocked) := by
  cases sender with
  | alarm n => cases result <;> simp [State.answer]
  | _ => simp [State.answer]

/-- One who waits for a sending is not turned away in the end. -/
theorem not_locked_resolved {answers : List (Nat × Answer)} {reply : Reply} (h : ¬ reply.IsLocked)
    (hanswers : ∀ y ∈ answers, y.2 ≠ .alarm (.error .storeLocked)) :
    ¬ (reply.resolved answers).IsLocked := by
  unfold Reply.resolved
  split
  · split
    · next number result hfind =>
        rintro (hlocked | hlocked)
        · cases hlocked
          exact hanswers _ (List.mem_of_find?_eq_some hfind) rfl
        · cases hlocked
    · exact h
  · exact h

end Alarm
end FailureAlarm
