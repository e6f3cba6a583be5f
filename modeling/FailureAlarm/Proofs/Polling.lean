import FailureAlarm.Proofs.Burst
import FailureAlarm.Proofs.Calls

/-!
# Polling does not matter

To ask for the number of retained failures is not a mere look: the failures that have left the window are
dropped, and so a run in which the alarm is polled may hold fewer failures than the same run without.
What it holds less has left the window already. With a clock that does not run backward such failures
will not be in any later window either, and the next call that records a failure would drop them itself.

So two runs that are the same but for polling are in states that differ in the store and the gauge only
(`withWindow`), with stores that a later look cannot tell apart. From a call that records a failure they
go on in one and the same state (`record_withWindow`). Only a call that brings no failure along finds the
store as the last poll has left it, and leaves it so.
-/

namespace FailureAlarm
namespace Alarm

/-! ### Runs with and without polling -/

/-- The step counts the failures in the window. -/
def Op.isPoll : Op → Bool
  | .retained _ => true
  | _ => false

/-- The step is a call of `record`. -/
def Op.isRecord : Op → Bool
  | .record _ _ => true
  | _ => false

/-- The step is a call of `record` that brings a failure. -/
def Op.isReport : Op → Bool
  | .record _ ⟨some _⟩ => true
  | _ => false

/-- The clock does not fail, does not run backward and shows no leap second. -/
structure OnTime (ops : List Op) : Prop where
  unbroken : ∀ op ∈ ops, op.breaks = false
  steady : Steady ((looks ops).map Look.now)

/-- A run that is on time was so all the time. -/
theorem OnTime.of_concat {ops : List Op} {op : Op} (h : OnTime (ops ++ [op])) : OnTime ops := by
  constructor
  · intro op' hop'
    exact h.unbroken op' (List.mem_append_left _ hop')
  · refine h.steady.of_sublist ?_
    exact ((List.sublist_append_left _ _).filterMap _).map _

/-- The clock of such a run does not fail, so the store stays in use. -/
theorem OnTime.isOpen {ops : List Op} (h : OnTime ops) (a : Alarm) : (a.after ops).poisoned = false :=
  open_run rfl h.unbroken

/-- One operation more is one look more at the window, or none. -/
theorem looks_concat (ops : List Op) (op : Op) : looks (ops ++ [op]) = looks ops ++ op.look?.toList := by
  unfold looks
  rw [List.filterMap_append]
  cases h : op.look? <;> simp [h]

/-- What the calls of `record` answered when they let go of the store. -/
def recordings (a : Alarm) : List Op → List Reply :=
  a.collect fun op reply _ => if op.isRecord then [reply] else []

/-- One operation more is one answer more, if it records a failure. -/
theorem recordings_concat (a : Alarm) (ops : List Op) (op : Op) :
    a.recordings (ops ++ [op]) =
      a.recordings ops ++ if op.isRecord then [(a.step (a.after ops) op).2.1] else [] :=
  a.collect_concat ..

/-- What the calls of `record` have returned by the end of a run. -/
def outcomes (a : Alarm) (ops : List Op) : List Reply :=
  (a.recordings ops).map (Reply.resolved (a.answers ops))

/-! ### Single steps -/

/-- A poll prunes the store, sets the gauge, and does nothing else. -/
theorem step_poll (a : Alarm) {s : State} (now : Instant) (hs : s.poisoned = false) :
    (∃ gauge, (a.step s (.retained (some now))).1 =
        withWindow s ⟨a.inWindow now s.store.failures⟩ gauge) ∧
      (a.step s (.retained (some now))).2.2.pages = [] := by
  rw [step_retained]
  have hspec := a.retained_spec (some now) s
  generalize a.retained (some now) s = r at hspec ⊢
  cases hspec with
  | locked hlocked => rw [hs] at hlocked; cases hlocked
  | counted _ hk =>
      cases hk
      exact ⟨⟨_, rfl⟩, pages_pruneLog _ _⟩

/-- A call that records a failure does not see what has left the window, and wipes out the difference. -/
theorem record_withWindow (a : Alarm) {s : State} {store : Store} (gauge : Option Nat) {now : Instant}
    {p : LoggingPayload} (hs : s.poisoned = false)
    (hwindow : a.inWindow now store.failures = a.inWindow now s.store.failures) :
    let r := a.step s (.record (some now) ⟨some p⟩)
    let r' := a.step (withWindow s store gauge) (.record (some now) ⟨some p⟩)
    r'.1 = r.1 ∧ r'.2.1 = r.2.1 ∧ r'.2.2.pages = r.2.2.pages := by
  have hkept : (a.entered now (p.toFailure now) store).1 =
      (a.entered now (p.toFailure now) s.store).1 := by
    show (⟨a.inWindow now (store.failures ++ [p.toFailure now])⟩ : Store) =
      ⟨a.inWindow now (s.store.failures ++ [p.toFailure now])⟩
    rw [inWindow_append, inWindow_append, hwindow]
  intro r r'
  have htake (t : State) (ht : t.poisoned = false) :
      a.step t (.record (some now) ⟨some p⟩) = ((a.take now (p.toFailure now) t).1,
        .record (a.take now (p.toFailure now) t).2.1, (a.take now (p.toFailure now) t).2.2) := by
    simp [step, record, ht]
  have hr : r = _ := htake s hs
  have hr' : r' = _ := htake (withWindow s store gauge) hs
  rw [hr, hr']
  simp only [take, withWindow, hkept]
  split
  · exact ⟨rfl, rfl, by simp⟩
  · exact ⟨rfl, rfl, by simp⟩

theorem step_without_payload (a : Alarm) (s : State) (reading : Reading) :
    a.step s (.record reading ⟨none⟩) = (s, .record (.finished (.error .missingPayload)), {}) := rfl

/-! ### Two runs -/

/-- The runs come to the same, up to what has left the window. -/
structure SameButPolls (a : Alarm) (xs ys : List Op) : Prop where
  state : ∃ store gauge, a.after ys = withWindow (a.after xs) store gauge
  window : ∀ now, Steady ((looks xs).map Look.now ++ [now]) →
    Steady ((looks ys).map Look.now ++ [now]) →
    a.inWindow now (a.after xs).store.failures = a.inWindow now (a.after ys).store.failures
  recordings : a.recordings xs = a.recordings ys
  answers : a.answers xs = a.answers ys
  pages : a.pages xs = a.pages ys
  stores : a.stores Op.isReport xs = a.stores Op.isReport ys

variable {a : Alarm} {xs ys : List Op}

theorem SameButPolls.symm (h : SameButPolls a xs ys) : SameButPolls a ys xs := by
  obtain ⟨store, gauge, hstate⟩ := h.state
  refine ⟨⟨(a.after xs).store, (a.after xs).metrics.retained, ?_⟩, ?_, h.recordings.symm,
    h.answers.symm, h.pages.symm, h.stores.symm⟩
  · rw [hstate]
    rfl
  · intro now hys hxs
    exact (h.window now hxs hys).symm

/-- A poll drops what would not be in any later window anyway. -/
theorem sameButPolls_poll {op : Op} (hop : op.isPoll = true) (hclock : OnTime (xs ++ [op]))
    (h : SameButPolls a xs ys) : SameButPolls a (xs ++ [op]) ys := by
  obtain ⟨reading, rfl⟩ : ∃ reading, op = .retained reading := by
    cases op with
    | retained reading => exact ⟨reading, rfl⟩
    | _ => cases hop
  cases reading with
  | none => cases hclock.unbroken (.retained none) (by simp)
  | some now =>
      obtain ⟨⟨gauge', hpoll⟩, hpages⟩ := a.step_poll now (hclock.of_concat.isOpen a)
      obtain ⟨store, gauge, hstate⟩ := h.state
      constructor
      · refine ⟨store, gauge, ?_⟩
        rw [after_concat, hpoll, hstate]
        rfl
      · intro later hxs hys
        rw [looks_concat, List.map_append, List.append_assoc] at hxs
        -- A later look has a later cutoff, as the clock does not go back, so it drops what the poll has
        -- dropped.
        have hle : a.cutoff now ≤ a.cutoff later := by
          have hpair := (List.pairwise_append.mp hxs.ordered).2.1
          apply Instant.cutoff_mono
          · exact hxs.ordinary now (by simp [Op.look?])
          · exact hxs.ordinary later (by simp)
          · exact (List.pairwise_cons.mp hpair).1 later (by simp)
        have hsub : Steady ((looks xs).map Look.now ++ [later]) :=
          hxs.of_sublist ((List.Sublist.refl _).append (List.sublist_cons_self _ _))
        rw [← h.window later hsub hys, after_concat, hpoll]
        exact a.inWindow_inWindow hle _
      · rw [recordings_concat]
        exact (List.append_nil _).trans h.recordings
      · rw [answers_concat]
        exact (List.append_nil _).trans h.answers
      · rw [pages_concat, hpages]
        exact (List.append_nil _).trans h.pages
      · rw [stores_concat]
        exact (List.append_nil _).trans h.stores

/-- What is added to both runs and done alike keeps them alike. -/
theorem sameButPolls_both {op : Op} (h : SameButPolls a xs ys)
    (hstate : ∃ store gauge, (a.step (a.after ys) op).1 =
      withWindow (a.step (a.after xs) op).1 store gauge)
    (hwindow : ∀ now, Steady ((looks (xs ++ [op])).map Look.now ++ [now]) →
      Steady ((looks (ys ++ [op])).map Look.now ++ [now]) →
      a.inWindow now (a.step (a.after xs) op).1.store.failures =
        a.inWindow now (a.step (a.after ys) op).1.store.failures)
    (hreply : (a.step (a.after xs) op).2.1 = (a.step (a.after ys) op).2.1)
    (hpages : (a.step (a.after xs) op).2.2.pages = (a.step (a.after ys) op).2.2.pages)
    (hstore : op.isReport = true →
      (a.step (a.after xs) op).1.store = (a.step (a.after ys) op).1.store) :
    SameButPolls a (xs ++ [op]) (ys ++ [op]) := by
  -- The polls are among the looks, but among nothing else that is compared.
  constructor
  · rw [after_concat, after_concat]
    exact hstate
  · rw [after_concat, after_concat]
    exact hwindow
  · rw [recordings_concat, recordings_concat, h.recordings, hreply]
  · rw [answers_concat, answers_concat, h.answers, hreply]
  · rw [pages_concat, pages_concat, h.pages, hpages]
  · rw [stores_concat, stores_concat, h.stores]
    split
    · next hop => rw [hstore hop]
    · rfl

/-- **A failure is recorded in both runs.** The one that was polled more often may have dropped some
failures earlier, but by now they are out of the window of the other as well, since its clock has not gone
back. -/
theorem sameButPolls_report {now : Instant} {p : LoggingPayload}
    (hxs : OnTime (xs ++ [.record (some now) ⟨some p⟩]))
    (hys : OnTime (ys ++ [.record (some now) ⟨some p⟩])) (h : SameButPolls a xs ys) :
    SameButPolls a (xs ++ [.record (some now) ⟨some p⟩]) (ys ++ [.record (some now) ⟨some p⟩]) := by
  have hlooks (zs : List Op) (hzs : OnTime (zs ++ [.record (some now) ⟨some p⟩])) :
      Steady ((looks zs).map Look.now ++ [now]) := by
    have hsteady := hzs.steady
    rw [looks_concat, List.map_append] at hsteady
    exact hsteady
  obtain ⟨store, gauge, hstate⟩ := h.state
  have hwindow : a.inWindow now store.failures = a.inWindow now (a.after xs).store.failures := by
    rw [h.window now (hlooks xs hxs) (hlooks ys hys), hstate]
    rfl
  obtain ⟨hsame, hreply, hpages⟩ :=
    a.record_withWindow gauge (p := p) (hxs.of_concat.isOpen a) hwindow
  rw [← hstate] at hsame hreply hpages
  refine sameButPolls_both h ⟨_, _, hsame⟩ ?_ hreply.symm hpages.symm ?_
  · intro later _ _
    rw [hsame]
  · intro _
    rw [hsame]

/-- What is no call happens to both alike. -/
theorem sameButPolls_elsewhere {op : Op} (hop : op.isCall = false) (h : SameButPolls a xs ys) :
    SameButPolls a (xs ++ [op]) (ys ++ [op]) := by
  obtain ⟨store, gauge, hstate⟩ := h.state
  have hstep := a.step_withWindow (a.after xs) store gauge hop
  rw [← hstate] at hstep
  have hlook : op.look? = none := by
    cases op with
    | record reading n => cases hop
    | retained reading => cases hop
    | _ => rfl
  have hreport : op.isReport = false := by
    cases op with
    | record reading n => cases hop
    | _ => rfl
  refine sameButPolls_both h ⟨store, gauge, by rw [hstep]⟩ ?_ (by rw [hstep]) (by rw [hstep]) ?_
  · intro now hxs hys
    rw [looks_concat, hlook, Option.toList_none, List.append_nil] at hxs hys
    rw [(a.step_elsewhere _ hop).1, (a.step_elsewhere _ hop).1]
    exact h.window now hxs hys
  · intro hyes
    rw [hreport] at hyes
    cases hyes

/-- A call without a payload does nothing in either. -/
theorem sameButPolls_without_payload {reading : Reading} (h : SameButPolls a xs ys) :
    SameButPolls a (xs ++ [.record reading ⟨none⟩]) (ys ++ [.record reading ⟨none⟩]) := by
  refine sameButPolls_both h h.state ?_ rfl rfl (fun hyes => by cases hyes)
  intro now hxs hys
  have hlook : Op.look? (.record reading ⟨none⟩) = none := by cases reading <;> rfl
  rw [looks_concat, hlook, Option.toList_none, List.append_nil] at hxs hys
  exact h.window now hxs hys

/-- Runs that differ in polls alone are gone through side by side. A poll stands in one of them, and
everything else in both. -/
theorem sameButPolls_of_filter (hsame : xs.filter (!·.isPoll) = ys.filter (!·.isPoll)) :
    OnTime xs → OnTime ys → SameButPolls a xs ys := by
  refine filter_eq_induction (motive := fun xs ys => OnTime xs → OnTime ys → SameButPolls a xs ys)
    ?_ ?_ ?_ ?_ hsame
  · intro _ _
    exact ⟨⟨_, _, rfl⟩, fun _ _ _ => rfl, rfl, rfl, rfl, rfl⟩
  · intro xs ys op hop ih hxs hys
    exact sameButPolls_poll (by simpa using hop) hxs (ih hxs.of_concat hys)
  · intro xs ys op hop ih hxs hys
    exact (sameButPolls_poll (by simpa using hop) hys (ih hxs hys.of_concat).symm).symm
  · intro xs ys op hop ih hxs hys
    have h := ih hxs.of_concat hys.of_concat
    cases op with
    | record reading n =>
        obtain ⟨_ | p⟩ := n
        · exact sameButPolls_without_payload h
        · cases reading with
          | none => cases hxs.unbroken (.record none ⟨some p⟩) (by simp)
          | some now => exact sameButPolls_report hxs hys h
    | retained reading => cases hop
    | _ => exact sameButPolls_elsewhere rfl h

/-! ### The whole -/

/-- **Polling never influences alerting.** Let two runs be the same but for the polls in them, and let the
clock of neither run backward, fail or show a leap second. Then the calls of `record` return the same,
the same pages are handed over, and the counters of recorded failures, of pages that were sent and of
pages that were not are the same. After each call that brings a failure the stores are the same as well.
A call that brings none leaves the store as it is, and there as everywhere the stores have the same
failures in the window of any later look. -/
theorem polling_changes_nothing (a : Alarm) {ops ops' : List Op}
    (hsame : ops.filter (!·.isPoll) = ops'.filter (!·.isPoll)) (hclock : OnTime ops)
    (hclock' : OnTime ops') :
    a.outcomes ops = a.outcomes ops' ∧ a.pages ops = a.pages ops' ∧
      (a.after ops).metrics.recorded = (a.after ops').metrics.recorded ∧
      (a.after ops).metrics.dispatched = (a.after ops').metrics.dispatched ∧
      (a.after ops).metrics.dispatchFailures = (a.after ops').metrics.dispatchFailures ∧
      a.stores Op.isReport ops = a.stores Op.isReport ops' ∧
      (∀ s reading, a.step s (.record reading ⟨none⟩) =
        (s, .record (.finished (.error .missingPayload)), {})) ∧
      ∀ now, Steady ((looks ops).map Look.now ++ [now]) → Steady ((looks ops').map Look.now ++ [now]) →
        a.inWindow now (a.after ops).store.failures = a.inWindow now (a.after ops').store.failures := by
  have h : SameButPolls a ops ops' := sameButPolls_of_filter hsame hclock hclock'
  obtain ⟨store, gauge, hstate⟩ := h.state
  refine ⟨?_, h.pages, ?_, ?_, ?_, h.stores, a.step_without_payload, h.window⟩
  · unfold outcomes
    rw [h.recordings, h.answers]
  · rw [hstate]
    rfl
  · rw [hstate]
    rfl
  · rw [hstate]
    rfl

/-- Of failures at seconds 0, 70 and 80 the last two are paged. The first has left the window by then; a
poll drops it in one of the runs, and the second failure in the other. -/
theorem polling_changes_nothing_of_three :
    let ops : List Op := [.record (some (second 0)) ⟨some {}⟩, .record none ⟨none⟩,
      .retained (some (second 50)), .record (some (second 70)) ⟨some {}⟩,
      .record (some (second 80)) ⟨some {}⟩, .complete 0 (.error (.http "refused"))]
    let ops' : List Op := [.record (some (second 0)) ⟨some {}⟩, .retained (some (second 65)),
      .record none ⟨none⟩, .record (some (second 70)) ⟨some {}⟩,
      .record (some (second 80)) ⟨some {}⟩, .retained (some (second 80)),
      .complete 0 (.error (.http "refused"))]
    ops.filter (!·.isPoll) = ops'.filter (!·.isPoll) ∧ OnTime ops ∧ OnTime ops' ∧
      (perMinute 2).stores Op.isReport ops = (perMinute 2).stores Op.isReport ops' ∧
      (perMinute 2).outcomes ops' = [.record (.finished (.ok (.recorded 1))),
        .record (.finished (.error .missingPayload)), .record (.finished (.ok (.recorded 1))),
        .record (.finished (.error (.dispatch (.http "refused"))))] := by
  intro ops ops'
  have hclock : OnTime ops := ⟨by decide, by decide, by decide⟩
  have hclock' : OnTime ops' := ⟨by decide, by decide, by decide⟩
  have hsame : ops.filter (!·.isPoll) = ops'.filter (!·.isPoll) := rfl
  obtain ⟨houtcomes, -, -, -, -, hstores, -⟩ :=
    polling_changes_nothing (perMinute 2) hsame hclock hclock'
  exact ⟨hsame, hclock, hclock', hstores, houtcomes ▸ rfl⟩

/-- Without a failure of its own, a call leaves the store as the last poll has left it. -/
theorem stores_differ_without_payload :
    let ops : List Op := [.record (some (second 0)) ⟨some {}⟩, .record none ⟨none⟩]
    let ops' : List Op := [.record (some (second 0)) ⟨some {}⟩, .retained (some (second 100)),
      .record none ⟨none⟩]
    ops.filter (!·.isPoll) = ops'.filter (!·.isPoll) ∧ OnTime ops ∧ OnTime ops' ∧
      (perMinute 2).stores Op.isRecord ops ≠ (perMinute 2).stores Op.isRecord ops' := by
  intro ops ops'
  exact ⟨rfl, ⟨by decide, by decide, by decide⟩, ⟨by decide, by decide, by decide⟩, by decide⟩

end Alarm
end FailureAlarm
