import FailureAlarm.Proofs.Event

/-!
# What a call brings to the store

A call that reads the clock looks at the store with that reading, and may bring a failure. What it
brings can be told from the call alone (`Op.look?`), whatever the alarm and its state are: alarms that
take the same calls are shown the same looks, only what comes of them is different.

A store that can be used takes every look (`shown_of_look`). It can be used as long as the clock has
not failed in a call (`poisoned_step`).
-/

namespace FailureAlarm
namespace Alarm

/-- A look at the store: the reading of the clock, and the failure that is recorded, if there is one. -/
structure Look where
  now : Instant
  failure? : Option Failure

/-- The look that a call takes at a store that can be used. -/
def Op.look? : Op → Option Look
  | .record (some now) ⟨some p⟩ => some ⟨now, some (p.toFailure now)⟩
  | .retained (some now) => some ⟨now, none⟩
  | _ => none

/-- The clock fails in the call, if the call gets as far as reading it. -/
def Op.breaks : Op → Bool
  | .record none ⟨some _⟩ => true
  | .retained none => true
  | _ => false

/-- The look that an event took. -/
def Event.look (e : Event) : Look := ⟨e.now, e.failure?⟩

theorem look_of_shown {op : Op} {reply : Reply} {e : Event} (h : Event.shown? op reply = some e) :
    op.look? = some e.look := by
  unfold Event.shown? at h
  split at h <;> cases h <;> rfl

/-- A failure is stamped with the reading of the look that brings it. -/
theorem time_of_look {op : Op} {l : Look} (h : op.look? = some l) : ∀ f ∈ l.failure?, f.time = l.now := by
  unfold Op.look? at h
  split at h <;> cases h
  · rintro f ⟨⟩
    rfl
  · rintro f ⟨⟩

/-- A store that can be used takes every look. -/
theorem shown_of_look {a : Alarm} {s : State} {op : Op} {l : Look} (hs : s.poisoned = false)
    (h : op.look? = some l) :
    ∃ e, Event.shown? op (a.step s op).2.1 = some e ∧ e.look = l := by
  unfold Op.look? at h
  split at h
  · next now p =>
      cases h
      rw [step_record]
      have hspec := a.record_spec (some now) ⟨some p⟩ s
      generalize a.record (some now) ⟨some p⟩ s = r at hspec ⊢
      cases hspec with
      | locked hlocked => rw [hs] at hlocked; cases hlocked
      | below _ _ _ => exact ⟨.recorded now (p.toFailure now), rfl, rfl⟩
      | reached _ _ _ => exact ⟨.crossed now (p.toFailure now), rfl, rfl⟩
  · next now =>
      cases h
      rw [step_retained]
      have hspec := a.retained_spec (some now) s
      generalize a.retained (some now) s = r at hspec ⊢
      cases hspec with
      | locked hlocked => rw [hs] at hlocked; cases hlocked
      | counted _ _ => exact ⟨.counted now, rfl, rfl⟩
  · cases h

/-- An event does what it says. -/
theorem happens_of_shown {a : Alarm} {s : State} {op : Op} {e : Event}
    (h : Event.shown? op (a.step s op).2.1 = some e) : a.Happens s (a.step s op) e := by
  rcases a.step_cases s op with ⟨hnone, -⟩ | ⟨e', he', hstep⟩
  · rw [h] at hnone
    cases hnone
  · rw [h] at he'
    cases he'
    exact hstep

/-- Without an event nothing happens. -/
theorem uneventful_of_shown {a : Alarm} {s : State} {op : Op}
    (h : Event.shown? op (a.step s op).2.1 = none) : Uneventful s (a.step s op) := by
  rcases a.step_cases s op with ⟨-, hquiet⟩ | ⟨e, he, -⟩
  · exact hquiet
  · rw [h] at he
    cases he

/-- A step without a look, or on a store that cannot be used, shows no event. -/
theorem shown_eq_none {a : Alarm} {s : State} {op : Op} (h : op.look? = none ∨ s.poisoned = true) :
    Event.shown? op (a.step s op).2.1 = none := by
  rcases a.step_cases s op with ⟨hnone, -⟩ | ⟨e, he, hstep⟩
  · exact hnone
  · rcases h with h | h
    · rw [look_of_shown he] at h
      cases h
    · rw [hstep.unlocked] at h
      cases h

/-- **Only a failing clock takes the store out of use**, and then for good. -/
theorem poisoned_step (a : Alarm) (s : State) (op : Op) :
    (a.step s op).1.poisoned = (s.poisoned || op.breaks) := by
  cases op with
  | record reading n =>
      have hspec := a.record_spec reading n s
      rw [step_record]
      generalize a.record reading n s = r at hspec ⊢
      cases hspec with
      | missing => cases reading <;> simp [Op.breaks]
      | locked hs => simp [hs]
      | crashed _ => simp [Op.breaks]
      | below hs _ _ => simp [hs, Op.breaks]
      | reached hs _ _ => simp [hs, Op.breaks]
  | retained reading =>
      have hspec := a.retained_spec reading s
      rw [step_retained]
      generalize a.retained reading s = r at hspec ⊢
      cases hspec with
      | locked hs => simp [hs]
      | crashed _ => simp [Op.breaks]
      | counted hs _ => simp [hs, Op.breaks]
  -- Nothing but a call takes the lock.
  | _ =>
      refine ((a.step_elsewhere s rfl).2.1).trans ?_
      simp [Op.breaks]

/-! ### Crossings -/

instance decidableCrosses (reply : Reply) : Decidable reply.Crosses :=
  match reply with
  | .record (.sending number) => isTrue ⟨number, rfl⟩
  | .record (.finished _) => isFalse (by rintro ⟨_, ⟨⟩⟩)
  | .record .crashed => isFalse (by rintro ⟨_, ⟨⟩⟩)
  | .retained _ => isFalse (by rintro ⟨_, ⟨⟩⟩)
  | .dispatch _ => isFalse (by rintro ⟨_, ⟨⟩⟩)
  | .complete _ => isFalse (by rintro ⟨_, ⟨⟩⟩)
  | .silent => isFalse (by rintro ⟨_, ⟨⟩⟩)

/-- An event tells whether the step crossed the threshold. -/
theorem crosses_iff_of_shown {op : Op} {reply : Reply} {e : Event}
    (h : Event.shown? op reply = some e) : reply.Crosses ↔ e.isCrossing = true := by
  unfold Event.shown? at h
  split at h
  · cases h
    exact iff_of_false (not_crosses_finished _) Bool.false_ne_true
  · cases h
    exact iff_of_true ⟨_, rfl⟩ rfl
  · cases h
    exact iff_of_false (by rintro ⟨_, ⟨⟩⟩) Bool.false_ne_true
  · cases h

/-- No step crosses the threshold without an event. -/
theorem not_crosses_of_shown {a : Alarm} {s : State} {op : Op}
    (h : Event.shown? op (a.step s op).2.1 = none) : ¬ (a.step s op).2.1.Crosses := by
  intro hcross
  obtain ⟨now, p, rfl, hc⟩ := crossing_of_crosses hcross
  rw [hc.reply] at h
  cases h

/-- Only calls cross the threshold. -/
theorem isCall_of_crosses {a : Alarm} {s : State} {op : Op} (h : (a.step s op).2.1.Crosses) :
    op.isCall = true := by
  obtain ⟨now, p, rfl, -⟩ := crossing_of_crosses h
  rfl

end Alarm
end FailureAlarm
