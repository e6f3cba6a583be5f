import FailureAlarm.Alarm.Run
import FailureAlarm.Proofs.Cutoff
import Mathlib.Data.List.Induction

/-!
# What a run does to the store

Of all steps of a run, only the calls of `record` and `retained` touch the store of failures, and
only when they get as far as reading the clock. Such a call is an *event*, and it can be told from the
call and its answer alone (`Event.shown?`). This module reduces runs to their events:

* `record_spec` and `retained_spec` list all that a call can come to, with the whole result;
  `record_below`, `record_reached` and `retained_counted` say what the calls that read the clock do to
  the failures in the store, and `crossing_of_crosses` that a page is handed over in no other way;
* `step_cases` says what a step does to the store, and what it tells about it, in terms of its event;
* `store_after` puts the steps together: the store after a run is a fold over the events of the run.

Whatever a run does besides, such as sendings that come to an end late, in any order, or never, leaves
no trace among its events.
-/

namespace FailureAlarm
namespace Alarm

/-! ### Points of a run -/

/-- The state after the steps of a run from the beginning. -/
def after (a : Alarm) (ops : List Op) : State := (a.run {} ops).1

/-- The steps of a run from the beginning, each with what it answered and handed out. -/
def trace (a : Alarm) (ops : List Op) : List (Op × Reply × Effects) := ops.zip (a.run {} ops).2

/-- There is one step for each operation. -/
theorem length_run (a : Alarm) (s : State) (ops : List Op) : (a.run s ops).2.length = ops.length := by
  induction ops generalizing s with
  | nil => rfl
  | cons op ops ih => exact congrArg (· + 1) (ih _)

/-- A run can be broken off at any point and taken up again. -/
theorem run_append (a : Alarm) (s : State) (xs ys : List Op) :
    a.run s (xs ++ ys) =
      ((a.run (a.run s xs).1 ys).1, (a.run s xs).2 ++ (a.run (a.run s xs).1 ys).2) := by
  induction xs generalizing s with
  | nil => rfl
  | cons x xs ih =>
      show ((a.run (a.step s x).1 (xs ++ ys)).1,
        (a.step s x).2 :: (a.run (a.step s x).1 (xs ++ ys)).2) = _
      rw [ih]
      rfl

/-- The state after one operation more. -/
@[simp] theorem after_concat (a : Alarm) (ops : List Op) (op : Op) :
    a.after (ops ++ [op]) = (a.step (a.after ops) op).1 := by
  unfold after
  rw [run_append]
  rfl

/-- One operation more is traced as a step from the state before it. -/
@[simp] theorem trace_concat (a : Alarm) (ops : List Op) (op : Op) :
    a.trace (ops ++ [op]) = a.trace ops ++ [(op, (a.step (a.after ops) op).2)] := by
  unfold trace
  rw [run_append, List.zip_append (length_run a {} ops).symm]
  rfl

/-- What is gathered of the steps of a run from the beginning, one after the other. -/
def collect {β : Type} (a : Alarm) (f : Op → Reply → Effects → List β) (ops : List Op) : List β :=
  (a.trace ops).flatMap fun (op, reply, effects) => f op reply effects

/-- What is collected of a run grows by what the last step gives. From this lemma the many collections of
a run have their lemmas for one operation more. -/
theorem collect_concat {β : Type} (a : Alarm) (f : Op → Reply → Effects → List β) (ops : List Op)
    (op : Op) :
    a.collect f (ops ++ [op]) =
      a.collect f ops ++ f op (a.step (a.after ops) op).2.1 (a.step (a.after ops) op).2.2 := by
  unfold collect
  rw [trace_concat, List.flatMap_append, List.flatMap_singleton]

/-! ### The calls, case by case -/

theorem step_record (a : Alarm) (s : State) (reading : Reading) (n : Notification) :
    a.step s (.record reading n) = ((a.record reading n s).1, .record (a.record reading n s).2.1,
      (a.record reading n s).2.2) := rfl

theorem step_retained (a : Alarm) (s : State) (reading : Reading) :
    a.step s (.retained reading) = ((a.retained reading s).1,
      .retained (a.retained reading s).2.1, (a.retained reading s).2.2) := rfl

/-- All that a call of `record` can come to. -/
inductive Recording (a : Alarm) (s : State) :
    Reading → Notification → State × Progress (Except AlarmError Outcome) × Effects → Prop
  | missing {reading} :
      Recording a s reading ⟨none⟩ (s, .finished (.error .missingPayload), {})
  | locked {reading p} : s.poisoned = true →
      Recording a s reading ⟨some p⟩ (s, .finished (.error .storeLocked), {})
  | crashed {p} : s.poisoned = false →
      Recording a s none ⟨some p⟩ ({ s with poisoned := true }, .crashed, {})
  | below {now p kept removed} : s.poisoned = false →
      a.entered now (p.toFailure now) s.store = (kept, removed) →
      a.policy.isReached kept.size = false →
      Recording a s (some now) ⟨some p⟩
        ({ s with
            store := kept
            metrics := { s.metrics with
              recorded := s.metrics.recorded + 1, retained := some kept.size } },
          .finished (.ok (.recorded kept.size)),
          pruneLog removed (a.cutoff now) ++ .line .debug "alerting::engine"
            s!"{kept.size} failures in window, threshold {a.policy.threshold}")
  | reached {now p kept removed} : s.poisoned = false →
      a.entered now (p.toFailure now) s.store = (kept, removed) →
      a.policy.isReached kept.size = true →
      Recording a s (some now) ⟨some p⟩
        ({ s with
            store := {}
            metrics := { s.metrics with recorded := s.metrics.recorded + 1, retained := some 0 }
            sending := s.sending ++
              [⟨s.nextSending, .alarm kept.size, a.page kept.failures⟩]
            nextSending := s.nextSending + 1 },
          .sending s.nextSending,
          pruneLog removed (a.cutoff now) ++ .line .info "alerting::engine"
            s!"Failure threshold crossed: {a.message kept.size}" ++
            { pages := [(s.nextSending, a.page kept.failures)] })

/-- The cases are those of the definition: the payload, the lock, the clock and the threshold. -/
theorem record_spec (a : Alarm) (reading : Reading) (n : Notification) (s : State) :
    Recording a s reading n (a.record reading n s) := by
  obtain ⟨_ | p⟩ := n
  · exact .missing
  · cases hs : s.poisoned with
    | true =>
        have h : a.record reading ⟨some p⟩ s = (s, .finished (.error .storeLocked), {}) := by
          simp [record, hs]
        rw [h]
        exact .locked hs
    | false =>
        cases reading with
        | none =>
            have h : a.record none ⟨some p⟩ s = ({ s with poisoned := true }, .crashed, {}) := by
              simp [record, hs]
            rw [h]
            exact .crashed hs
        | some now =>
            have h : a.record (some now) ⟨some p⟩ s = a.take now (p.toFailure now) s := by
              simp [record, hs]
            rw [h]
            -- From here on the store is used, and only the threshold decides.
            unfold take
            cases hk : a.entered now (p.toFailure now) s.store with
            | mk kept removed =>
                dsimp only
                split
                · next hr => exact .reached hs hk hr
                · next hr => exact .below hs hk (Bool.eq_false_iff.mpr hr)

/-- All that a call of `retained` can come to. -/
inductive Counting (a : Alarm) (s : State) :
    Reading → State × Progress (Except AlarmError Nat) × Effects → Prop
  | locked {reading} : s.poisoned = true →
      Counting a s reading (s, .finished (.error .storeLocked), {})
  | crashed : s.poisoned = false →
      Counting a s none ({ s with poisoned := true }, .crashed, {})
  | counted {now kept removed} : s.poisoned = false →
      s.store.prune (a.cutoff now) = (kept, removed) →
      Counting a s (some now)
        ({ s with store := kept, metrics := { s.metrics with retained := some kept.size } },
          .finished (.ok kept.size), pruneLog removed (a.cutoff now))

/-- Counting has no payload to look for and no threshold to reach. -/
theorem retained_spec (a : Alarm) (reading : Reading) (s : State) :
    Counting a s reading (a.retained reading s) := by
  unfold retained
  split
  · next hs => exact .locked hs
  · next hs =>
      cases reading with
      | none => exact .crashed (Bool.eq_false_iff.mpr hs)
      | some now => exact .counted (Bool.eq_false_iff.mpr hs) rfl

/-- What the store itself writes to the log in a step: that failures were pruned. -/
def storeLines (effects : Effects) : List LogLine :=
  effects.log.filter (·.target = "failure_store::store")

@[simp] theorem storeLines_append (x y : Effects) :
    storeLines (x ++ y) = storeLines x ++ storeLines y := List.filter_append ..

/-- All that is logged about pruning is from the store. -/
theorem storeLines_pruneLog (removed : Nat) (cutoff : Instant) :
    storeLines (pruneLog removed cutoff) = (pruneLog removed cutoff).log := by
  unfold storeLines pruneLog
  split <;> rfl

/-- The step is a call of `record` or `retained`. -/
def Op.isCall : Op → Bool
  | .record _ _ => true
  | .retained _ => true
  | _ => false

/-- The steps that call neither `record` nor `retained` leave the store, its lock and what is counted
and logged about it. -/
theorem step_elsewhere (a : Alarm) (s : State) {op : Op} (h : op.isCall = false) :
    (a.step s op).1.store = s.store ∧ (a.step s op).1.poisoned = s.poisoned ∧
      (a.step s op).1.metrics.recorded = s.metrics.recorded ∧
      (a.step s op).1.metrics.retained = s.metrics.retained ∧
      storeLines (a.step s op).2.2 = [] := by
  cases op with
  | record reading n => cases h
  | retained reading => cases h
  | dispatch message details => exact ⟨rfl, rfl, rfl, rfl, rfl⟩
  | watch r =>
      simp only [step, watch]
      split
      · exact ⟨rfl, rfl, rfl, rfl, rfl⟩
      · split <;> exact ⟨rfl, rfl, rfl, rfl, rfl⟩
  | release id => exact ⟨rfl, rfl, rfl, rfl, rfl⟩
  | pass d => exact ⟨rfl, rfl, rfl, rfl, rfl⟩
  | fire =>
      simp only [step, fire]
      split
      · next hfire =>
          split at hfire <;> cases hfire
          exact ⟨rfl, rfl, rfl, rfl, rfl⟩
      · exact ⟨rfl, rfl, rfl, rfl, rfl⟩
  | complete number result =>
      simp only [step, State.complete]
      split
      · exact ⟨rfl, rfl, rfl, rfl, rfl⟩
      · next sending _ =>
          -- What is logged at the end of a sending depends on who waits for it; the store logs none of
          -- that.
          obtain ⟨_, sender, _⟩ := sending
          cases result <;> cases sender <;> exact ⟨rfl, rfl, rfl, rfl, rfl⟩

/-! ### The calls that read the clock -/

/-- A threshold that is reached by a number of failures. -/
theorem isReached_iff (p : Policy) (n : Nat) :
    p.isReached n = true ↔ p.threshold ≤ n ∨ p.threshold ≤ 0 := by
  unfold Policy.isReached
  rw [decide_eq_true_eq]
  omega

/-- The failures that are in the window at `now`, in their order. -/
def inWindow (a : Alarm) (now : Instant) (fs : List Failure) : List Failure :=
  fs.filter fun f => a.cutoff now < f.time

/-- Below the threshold the failure joins those in the window. -/
theorem record_below {a : Alarm} {s : State} {now : Instant} {p : LoggingPayload}
    (hs : s.poisoned = false)
    (h : a.policy.isReached (a.inWindow now (s.store.failures ++ [p.toFailure now])).length = false) :
    (a.record (some now) ⟨some p⟩ s).2.1 = .finished (.ok
        (.recorded (a.inWindow now (s.store.failures ++ [p.toFailure now])).length)) ∧
      (a.record (some now) ⟨some p⟩ s).1.store.failures =
        a.inWindow now (s.store.failures ++ [p.toFailure now]) := by
  have hspec := a.record_spec (some now) ⟨some p⟩ s
  generalize a.record (some now) ⟨some p⟩ s = r at hspec ⊢
  cases hspec with
  | locked hlocked => rw [hs] at hlocked; cases hlocked
  | below _ hk _ => cases hk; exact ⟨rfl, rfl⟩
  | reached _ hk hr => cases hk; exact absurd (h.symm.trans hr) Bool.false_ne_true

/-- What a step from `s` is that records a failure at `now` and reaches the threshold by it: a page
over the failures in the window is handed over, and the store is emptied. -/
structure Crossing (a : Alarm) (s : State) (now : Instant) (p : LoggingPayload)
    (r : State × Reply × Effects) : Prop where
  unlocked : s.poisoned = false
  reached : a.policy.isReached (a.inWindow now (s.store.failures ++ [p.toFailure now])).length = true
  reply : r.2.1 = .record (.sending s.nextSending)
  store : r.1.store = {}
  sending : r.1.sending = s.sending ++ [⟨s.nextSending,
    .alarm (a.inWindow now (s.store.failures ++ [p.toFailure now])).length,
    a.page (a.inWindow now (s.store.failures ++ [p.toFailure now]))⟩]
  pages : r.2.2.pages =
    [(s.nextSending, a.page (a.inWindow now (s.store.failures ++ [p.toFailure now])))]

@[simp] theorem pages_pruneLog (removed : Nat) (cutoff : Instant) :
    (pruneLog removed cutoff).pages = [] := by
  unfold pruneLog
  split <;> rfl

/-- A call that reaches the threshold with a store in use crosses it. -/
theorem record_reached {a : Alarm} {s : State} {now : Instant} {p : LoggingPayload}
    (hs : s.poisoned = false)
    (h : a.policy.isReached (a.inWindow now (s.store.failures ++ [p.toFailure now])).length = true) :
    a.Crossing s now p (a.step s (.record (some now) ⟨some p⟩)) := by
  have hspec := a.record_spec (some now) ⟨some p⟩ s
  rw [step_record]
  generalize a.record (some now) ⟨some p⟩ s = r at hspec ⊢
  cases hspec with
  | locked hlocked => rw [hs] at hlocked; cases hlocked
  | below _ hk hr => cases hk; exact absurd (hr.symm.trans h) Bool.false_ne_true
  | reached _ hk _ =>
      cases hk
      refine ⟨hs, h, rfl, rfl, rfl, ?_⟩
      rw [Effects.pages_append, Effects.pages_append, pages_pruneLog]
      rfl

/-- The answer of a call that crossed the threshold: it waits for the sending of its page. -/
def Reply.Crosses (reply : Reply) : Prop := ∃ number, reply = .record (.sending number)

/-- A call that has returned does not wait for a sending. -/
theorem not_crosses_finished (result : Except AlarmError Outcome) :
    ¬ Reply.Crosses (.record (.finished result)) := by
  rintro ⟨_, ⟨⟩⟩

/-- Only by reaching the threshold does a step come to wait for an alarm to be sent. -/
theorem crossing_of_crosses {a : Alarm} {s : State} {op : Op} (h : (a.step s op).2.1.Crosses) :
    ∃ now p, op = .record (some now) ⟨some p⟩ ∧ a.Crossing s now p (a.step s op) := by
  obtain ⟨number, h⟩ := h
  cases op with
  | record reading n =>
      rw [step_record] at h
      have hspec := a.record_spec reading n s
      generalize hr : a.record reading n s = r at hspec h
      cases hspec with
      | @reached now p _ _ hs hk hreached =>
          cases hk
          exact ⟨now, p, rfl, record_reached hs hreached⟩
      | _ => cases h
  | fire =>
      simp only [step] at h
      split at h <;> cases h
  | _ => cases h

/-- Counting drops what is no longer in the window. -/
theorem retained_counted {a : Alarm} {s : State} (now : Instant) (hs : s.poisoned = false) :
    (a.retained (some now) s).2.1 = .finished (.ok (a.inWindow now s.store.failures).length) ∧
      (a.retained (some now) s).1.store.failures = a.inWindow now s.store.failures := by
  have hspec := a.retained_spec (some now) s
  generalize a.retained (some now) s = r at hspec ⊢
  cases hspec with
  | locked hlocked => rw [hs] at hlocked; cases hlocked
  | counted _ hk => cases hk; exact ⟨rfl, rfl⟩

/-! ### Events -/

/-- What a call that read the clock did to the store. -/
inductive Event where
  /-- A failure was recorded, and the threshold was not reached. -/
  | recorded (now : Instant) (failure : Failure)
  /-- A failure was recorded, and the threshold was reached: the store was drained. -/
  | crossed (now : Instant) (failure : Failure)
  /-- The failures in the window were counted. -/
  | counted (now : Instant)
deriving DecidableEq

namespace Event

/-- The reading of the clock. -/
def now : Event → Instant
  | recorded now _ => now
  | crossed now _ => now
  | counted now => now

/-- The failure that was recorded, if there was one to record. -/
def failure? : Event → Option Failure
  | recorded _ f => some f
  | crossed _ f => some f
  | counted _ => none

/-- The threshold was reached. -/
def isCrossing : Event → Bool
  | crossed _ _ => true
  | _ => false

/-- The event that a step shows by its answer. A step that did not read the clock shows none. -/
def shown? (op : Op) (reply : Reply) : Option Event :=
  match reply, op with
  | .record (.finished (.ok (.recorded _))), .record (some now) ⟨some p⟩ =>
    some (recorded now (p.toFailure now))
  | .record (.sending _), .record (some now) ⟨some p⟩ => some (crossed now (p.toFailure now))
  | .retained (.finished (.ok _)), .retained (some now) => some (counted now)
  | _, _ => none

/-- Only the two calls read the clock. -/
theorem shown?_elsewhere {op : Op} (h : op.isCall = false) (reply : Reply) :
    shown? op reply = none := by
  unfold shown?
  split
  · cases h
  · cases h
  · cases h
  · rfl

/-- A failure is stamped with the reading of the call that recorded it. -/
theorem time_of_shown {op : Op} {reply : Reply} {e : Event} (h : shown? op reply = some e) :
    ∀ f ∈ e.failure?, f.time = e.now := by
  unfold shown? at h
  split at h <;> cases h
  · rintro f ⟨⟩
    rfl
  · rintro f ⟨⟩
    rfl
  · rintro f ⟨⟩

end Event

/-- The failures that the store comes to hold before the threshold is checked. -/
def kept (a : Alarm) (fs : List Failure) (e : Event) : List Failure :=
  a.inWindow e.now (fs ++ e.failure?.toList)

/-- The failures that an event leaves in the store. -/
def left (a : Alarm) (fs : List Failure) (e : Event) : List Failure :=
  if e.isCrossing then [] else a.kept fs e

/-- A crossing leaves nothing. -/
theorem left_of_crossing {a : Alarm} {e : Event} (h : e.isCrossing = true) (fs : List Failure) :
    a.left fs e = [] := if_pos h

/-- Any other event leaves what it has kept. -/
theorem left_of_not_crossing {a : Alarm} {e : Event} (h : e.isCrossing = false)
    (fs : List Failure) : a.left fs e = a.kept fs e := by
  unfold left
  rw [h]
  rfl

/-- An event can happen to a store with these failures: it is a crossing exactly if a failure is
recorded and the threshold is reached. -/
def Fits (a : Alarm) (fs : List Failure) (e : Event) : Prop :=
  e.isCrossing = (e.failure?.isSome && a.policy.isReached (a.kept fs e).length)

/-- The events of a run from the beginning. -/
def events (a : Alarm) : List Op → List Event :=
  a.collect fun op reply _ => (Event.shown? op reply).toList

/-- One operation more shows one event more, or none. -/
theorem events_concat (a : Alarm) (ops : List Op) (op : Op) :
    a.events (ops ++ [op]) =
      a.events ops ++ (Event.shown? op (a.step (a.after ops) op).2.1).toList :=
  a.collect_concat ..

/-- The page of an alarm that a step hands over. -/
def alarmPages : Reply → Effects → List Page
  | .record (.sending _), effects => effects.pages.map (·.2)
  | _, _ => []

/-- A step that does not cross the threshold hands over no page of an alarm. -/
theorem alarmPages_of_not_crosses {reply : Reply} (h : ¬ reply.Crosses) (effects : Effects) :
    alarmPages reply effects = [] := by
  unfold alarmPages
  split
  · exact absurd ⟨_, rfl⟩ h
  · rfl

/-- A step from `s` without an event, in all that concerns the store. -/
structure Uneventful (s : State) (r : State × Reply × Effects) : Prop where
  store : r.1.store = s.store
  recorded : r.1.metrics.recorded = s.metrics.recorded
  alarms : alarmPages r.2.1 r.2.2 = []
  lines : storeLines r.2.2 = []

/-- A step from `s` with the event `e`, in all that concerns the store. -/
structure Happens (a : Alarm) (s : State) (r : State × Reply × Effects) (e : Event) : Prop where
  unlocked : s.poisoned = false
  fits : a.Fits s.store.failures e
  store : r.1.store.failures = a.left s.store.failures e
  recorded : r.1.metrics.recorded = s.metrics.recorded + e.failure?.toList.length
  alarms : alarmPages r.2.1 r.2.2 =
    if e.isCrossing then [a.page (a.kept s.store.failures e)] else []
  lines : storeLines r.2.2 =
    (pruneLog ((s.store.failures ++ e.failure?.toList).length - (a.kept s.store.failures e).length)
      (a.cutoff e.now)).log

/-- What a call shows by its answer has happened: a failure was recorded, below the threshold or up to it.
-/
theorem happens_record {a : Alarm} {s : State} {reading : Reading} {n : Notification} {e : Event}
    (h : Event.shown? (.record reading n) (a.step s (.record reading n)).2.1 = some e) :
    a.Happens s (a.step s (.record reading n)) e := by
  have hspec := a.record_spec reading n s
  rw [step_record] at h ⊢
  generalize a.record reading n s = r at hspec h ⊢
  cases hspec with
  | below hs hk hr =>
      cases hk
      cases h
      refine ⟨hs, hr.symm, rfl, rfl, rfl, ?_⟩
      rw [storeLines_append, storeLines_pruneLog]
      exact List.append_nil _
  | reached hs hk hr =>
      cases hk
      cases h
      refine ⟨hs, hr.symm, rfl, rfl, ?_, ?_⟩
      · show ((pruneLog _ _).pages ++ [] ++ [(s.nextSending, _)]).map Prod.snd = _
        rw [pages_pruneLog]
        rfl
      · rw [storeLines_append, storeLines_append, storeLines_pruneLog]
        exact (List.append_nil _).trans (List.append_nil _)
  | _ => cases h

/-- A call that answers with a number has pruned the store, and nothing else. -/
theorem happens_retained {a : Alarm} {s : State} {reading : Reading} {e : Event}
    (h : Event.shown? (.retained reading) (a.step s (.retained reading)).2.1 = some e) :
    a.Happens s (a.step s (.retained reading)) e := by
  have hspec := a.retained_spec reading s
  rw [step_retained] at h ⊢
  generalize a.retained reading s = r at hspec h ⊢
  cases hspec with
  | @counted now kept removed hs hk =>
      cases hk
      cases h
      -- Counting records nothing: what is looked at is the store as it was.
      have hkept : a.kept s.store.failures (.counted now) =
          (s.store.after (a.cutoff now)).failures := by
        show a.inWindow now (s.store.failures ++ []) = _
        rw [List.append_nil]
        rfl
      refine ⟨hs, rfl, hkept.symm, rfl, rfl, ?_⟩
      rw [hkept]
      show storeLines (pruneLog _ _) = (pruneLog ((s.store.failures ++ []).length - _) _).log
      rw [List.append_nil]
      exact storeLines_pruneLog _ _
  | _ => cases h

/-- A call that shows no event has not come as far as the store. It had no payload, or was turned away, or
its look at the clock has failed. -/
theorem uneventful_call {a : Alarm} {s : State} {op : Op} (hop : op.isCall = true)
    (h : Event.shown? op (a.step s op).2.1 = none) : Uneventful s (a.step s op) := by
  cases op with
  | record reading n =>
      have hspec := a.record_spec reading n s
      rw [step_record] at h ⊢
      generalize a.record reading n s = r at hspec h ⊢
      cases hspec with
      | below _ _ _ => cases h
      | reached _ _ _ => cases h
      | _ => exact ⟨rfl, rfl, rfl, rfl⟩
  | retained reading =>
      have hspec := a.retained_spec reading s
      rw [step_retained] at h ⊢
      generalize a.retained reading s = r at hspec h ⊢
      cases hspec with
      | counted _ _ => cases h
      | _ => exact ⟨rfl, rfl, rfl, rfl⟩
  | _ => cases hop

/-- **A step without an event leaves the store and all that is told about it; a step with an event does
what the event says.** -/
theorem step_cases (a : Alarm) (s : State) (op : Op) :
    (Event.shown? op (a.step s op).2.1 = none ∧ Uneventful s (a.step s op)) ∨
      ∃ e, Event.shown? op (a.step s op).2.1 = some e ∧ a.Happens s (a.step s op) e := by
  cases hop : op.isCall with
  | false =>
      obtain ⟨hstore, -, hrec, -, hlines⟩ := a.step_elsewhere s hop
      -- Other steps may hand over pages as well, but not those of an alarm.
      have hcrosses : ¬ (a.step s op).2.1.Crosses := by
        intro h
        obtain ⟨now, p, rfl, -⟩ := crossing_of_crosses h
        cases hop
      exact Or.inl ⟨Event.shown?_elsewhere hop _, hstore, hrec,
        alarmPages_of_not_crosses hcrosses _, hlines⟩
  | true =>
      cases he : Event.shown? op (a.step s op).2.1 with
      | none => exact Or.inl ⟨rfl, uneventful_call hop he⟩
      | some e =>
          cases op with
          | record reading n => exact Or.inr ⟨e, rfl, happens_record he⟩
          | retained reading => exact Or.inr ⟨e, rfl, happens_retained he⟩
          | _ => cases hop

/-- **The store after a run is what its events left**, one after the other. -/
theorem store_after (a : Alarm) (ops : List Op) :
    (a.after ops).store.failures = (a.events ops).foldl a.left [] := by
  induction ops using List.reverseRecOn with
  | nil => rfl
  | append_singleton ops op ih =>
      rw [after_concat, events_concat, List.foldl_append, ← ih]
      rcases a.step_cases (a.after ops) op with ⟨hnone, h⟩ | ⟨e, he, h⟩
      · rw [hnone, h.store]
        rfl
      · rw [he, h.store]
        rfl

end Alarm
end FailureAlarm
