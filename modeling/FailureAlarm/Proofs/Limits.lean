import FailureAlarm.Proofs.Outcome

/-!
# Windows at the limits

Three ranges meet in the start of a window: a window has any number of seconds, it is accepted if its
milliseconds can be counted in 64 bits, and instants reach back a small part of that. So there are
accepted windows that begin before the first instant; they start at the first instant instead.

Before that, an ordinary second has the instant so many seconds earlier as the start of its window
(`cutoff_of_secondsBefore`), and there is no other way to start at the first instant
(`cutoff_of_none_before`). Wherever it starts, a window of some length holds the failure that has just
been recorded (`entered_of_cutoff_lt`), and no look at an instant makes a call break off
(`looks_are_safe`).

Together with the place of the cutoff in the order of instants this is `cutoff_at_limits`.
-/

namespace FailureAlarm

namespace Instant

/-- The instant `t` is `n` seconds before `now`. -/
structure SecondsBefore (t now : Instant) (n : Nat) : Prop where
  secs : t.secs = now.secs - n
  nanos : t.nanos = now.nanos

/-- If there is an instant so many seconds ago, then it is the cutoff. -/
theorem cutoff_of_secondsBefore {t now : Instant} {n : Nat} (hnow : ¬ now.IsLeap)
    (h : t.SecondsBefore now n) : now.cutoff n = t := by
  have hcarry := carry_eq_zero hnow
  rcases cutoff_parts now n (Or.inr hnow) with ⟨hsecs, hnanos⟩ | ⟨hlt, -⟩
  · unfold IsLeap at hnow
    have hs := h.secs
    have hn := h.nanos
    ext <;> omega
  · have hmin := t.valid.min_le
    have hs := h.secs
    omega

/-- If there is none, the cutoff is the first instant of all. -/
theorem cutoff_of_none_before {now : Instant} {n : Nat} (hnow : ¬ now.IsLeap)
    (h : ∀ t : Instant, ¬ t.SecondsBefore now n) : now.cutoff n = Instant.min := by
  have hcarry := carry_eq_zero hnow
  rcases cutoff_parts now n (Or.inr hnow) with ⟨hsecs, hnanos⟩ | ⟨-, hmin⟩
  · unfold IsLeap at hnow
    exact absurd ⟨by omega, by omega⟩ (h (now.cutoff n))
  · exact hmin

end Instant

namespace Alarm

/-! ### Which windows are accepted -/

theorem ofPolicy_of_le {policy : Policy} (dispatcher : Dispatcher) (watchdog : Watchdog)
    (h : policy.windowSeconds ≤ Policy.maxWindow) :
    ∃ made, ofPolicy policy dispatcher watchdog = .ok (⟨policy, h, dispatcher, watchdog⟩, made) := by
  unfold ofPolicy
  rw [dif_pos h]
  exact ⟨_, rfl⟩

/-- A longer window is refused, and the refusal names it. -/
theorem ofPolicy_of_lt {policy : Policy} (dispatcher : Dispatcher) (watchdog : Watchdog)
    (h : Policy.maxWindow < policy.windowSeconds) :
    ofPolicy policy dispatcher watchdog = .error (.windowOutOfRange policy.windowSeconds) := by
  unfold ofPolicy
  rw [dif_neg (Nat.not_le.mpr h)]

/-! ### Looks at the store -/

/-- A call that is given an instant comes to its end, or waits for its page, and leaves the lock of the
store as it was. -/
theorem looks_are_safe (a : Alarm) (now : Instant) (n : Notification) (s : State) :
    ((a.record (some now) n s).2.1 ≠ .crashed ∧
        (a.record (some now) n s).1.poisoned = s.poisoned) ∧
      (a.retained (some now) s).2.1 ≠ .crashed ∧
        (a.retained (some now) s).1.poisoned = s.poisoned := by
  constructor
  · have hspec := a.record_spec (some now) n s
    generalize a.record (some now) n s = r at hspec ⊢
    cases hspec with
    | missing => exact ⟨nofun, rfl⟩
    | locked _ => exact ⟨nofun, rfl⟩
    | below _ _ _ => exact ⟨nofun, rfl⟩
    | reached _ _ _ => exact ⟨nofun, rfl⟩
  · have hspec := a.retained_spec (some now) s
    generalize a.retained (some now) s = r at hspec ⊢
    cases hspec with
    | locked _ => exact ⟨nofun, rfl⟩
    | counted _ _ => exact ⟨nofun, rfl⟩

/-- The failure that is recorded stays, at the end of the others that are in the window. -/
theorem entered_of_cutoff_lt {a : Alarm} {now : Instant} {f : Failure} (h : a.cutoff now < f.time)
    (store : Store) :
    (a.entered now f store).1.failures = (store.after (a.cutoff now)).failures ++ [f] := by
  show (store.failures ++ [f]).filter _ = _
  rw [List.filter_append, List.filter_cons_of_pos (by simpa using h), List.filter_nil]
  rfl

/-- **The start of a window, up to the limits.** A policy makes an alarm exactly if its window has no
more than `(2 ^ 63 - 1) / 1000` seconds, and is refused for its window otherwise. With an accepted
window, no instant that a call is given makes it break off. In an ordinary second the window starts so
many seconds earlier, if there is such an instant, and else at the first one. At any instant, it starts
no later than now; it starts earlier, and so holds the failure that is recorded now, if it has any
length and this is not the first instant; and a longer window starts no later. Of two ordinary instants
the later one has the window that starts no earlier. -/
theorem cutoff_at_limits (policy : Policy) (dispatcher : Dispatcher) (watchdog : Watchdog) :
    ((∃ made, ofPolicy policy dispatcher watchdog = .ok made) ↔
        policy.windowSeconds ≤ 9223372036854775807 / 1000) ∧
      (¬ policy.windowSeconds ≤ 9223372036854775807 / 1000 →
        ofPolicy policy dispatcher watchdog = .error (.windowOutOfRange policy.windowSeconds)) ∧
      ∀ a made, ofPolicy policy dispatcher watchdog = .ok (a, made) → ∀ now : Instant,
        (∀ n s, ((a.record (some now) n s).2.1 ≠ .crashed ∧
            (a.record (some now) n s).1.poisoned = s.poisoned) ∧
          (a.retained (some now) s).2.1 ≠ .crashed ∧
            (a.retained (some now) s).1.poisoned = s.poisoned) ∧
        (¬ now.IsLeap →
          (∀ t : Instant, t.SecondsBefore now policy.windowSeconds → a.cutoff now = t) ∧
          ((∀ t : Instant, ¬ t.SecondsBefore now policy.windowSeconds) →
            a.cutoff now = Instant.min)) ∧
        (∀ t, Instant.min ≤ t) ∧ a.cutoff now ≤ now ∧
        (1 ≤ policy.windowSeconds → now ≠ Instant.min → a.cutoff now < now ∧
          ∀ (p : LoggingPayload) (store : Store),
            (a.entered now (p.toFailure now) store).1.failures =
              (store.after (a.cutoff now)).failures ++ [p.toFailure now]) ∧
        (∀ b : Alarm, policy.windowSeconds ≤ b.policy.windowSeconds →
          b.cutoff now ≤ a.cutoff now) ∧
        (∀ later : Instant, ¬ now.IsLeap → ¬ later.IsLeap → now ≤ later →
          a.cutoff now ≤ a.cutoff later) := by
  have hmax : 9223372036854775807 / 1000 = Policy.maxWindow := rfl
  rw [hmax]
  refine ⟨⟨?_, ?_⟩, ?_, ?_⟩
  · rintro ⟨made, hmade⟩
    by_contra hlong
    rw [ofPolicy_of_lt dispatcher watchdog (Nat.lt_of_not_le hlong)] at hmade
    cases hmade
  · intro hle
    obtain ⟨made, hmade⟩ := ofPolicy_of_le dispatcher watchdog hle
    exact ⟨_, hmade⟩
  · intro hlong
    exact ofPolicy_of_lt dispatcher watchdog (Nat.lt_of_not_le hlong)
  · intro a made hmade now
    obtain ⟨rfl, -⟩ := eq_of_ofPolicy hmade
    refine ⟨fun n s => a.looks_are_safe now n s, ?_, fun t => Instant.first_le t, ?_, ?_, ?_, ?_⟩
    · intro hnow
      exact ⟨fun t => Instant.cutoff_of_secondsBefore hnow, Instant.cutoff_of_none_before hnow⟩
    · exact Instant.cutoff_le now a.policy.windowSeconds
    · intro hwindow hfirst
      have hlt : a.cutoff now < now :=
        Instant.cutoff_lt hwindow (lt_of_le_of_ne (Instant.first_le now) (Ne.symm hfirst))
      refine ⟨hlt, fun p store => ?_⟩
      -- A failure is stamped with the reading, so it is later than the cutoff and stays.
      have htime : (p.toFailure now).time = now := rfl
      exact entered_of_cutoff_lt (htime ▸ hlt) store
    · intro b hb
      exact Instant.cutoff_anti now hb
    · intro later hnow hlater hle
      exact Instant.cutoff_mono _ hnow hlater hle

end Alarm
end FailureAlarm
