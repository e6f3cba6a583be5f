import FailureAlarm.Proofs.Event

/-!
# The window and the whole history

The store is pruned at every call that reads the clock and emptied at every crossing, so the alarm
decides by what little is left of the past. A reader thinks of the window differently: all failures
recorded since the last crossing are kept in mind (`sinceCrossing`), and each call looks at those of
them that are later than its cutoff. As long as the clock does not run backward, the two agree,

    inWindow_store : a.inWindow now (a.after ops).store.failures =
      a.inWindow now (sinceCrossing (a.events ops))

and then so do all answers (`window_of_history`). What has been pruned at an earlier cutoff would be
pruned at the later one as well (`inWindow_inWindow`); this is where leap seconds have to be left out,
since the cutoff is not monotone there.
-/

namespace FailureAlarm
namespace Alarm

/-! ### Looking at a history -/

/-- The failures that were recorded since the last crossing. -/
def sinceCrossing (es : List Event) : List Failure :=
  es.foldl (fun fs e => if e.isCrossing then [] else fs ++ e.failure?.toList) []

/-- The readings that the calls of a run took from the clock. -/
def readings (a : Alarm) (ops : List Op) : List Instant := (a.events ops).map Event.now

/-- Readings of a clock that does not run backward and shows no leap second. -/
structure Steady (ts : List Instant) : Prop where
  ordered : ts.Pairwise (· ≤ ·)
  ordinary : ∀ t ∈ ts, ¬ t.IsLeap

theorem Steady.of_sublist {ts us : List Instant} (h : Steady us) (hsub : ts.Sublist us) : Steady ts :=
  ⟨h.ordered.sublist hsub, fun t ht => h.ordinary t (hsub.subset ht)⟩

theorem sinceCrossing_concat (es : List Event) (e : Event) :
    sinceCrossing (es ++ [e]) =
      if e.isCrossing then [] else sinceCrossing es ++ e.failure?.toList := by
  unfold sinceCrossing
  rw [List.foldl_append]
  rfl

/-- The failures since the last crossing are stamped with readings of the run, in the same order. -/
theorem times_sinceCrossing {es : List Event} (h : ∀ e ∈ es, ∀ f ∈ e.failure?, f.time = e.now) :
    ((sinceCrossing es).map (·.time)).Sublist (es.map Event.now) := by
  induction es using List.reverseRecOn with
  | nil => exact List.Sublist.refl _
  | append_singleton es e ih =>
      have hes := ih fun e' he' => h e' (List.mem_append_left _ he')
      rw [sinceCrossing_concat, List.map_append]
      split
      · exact List.nil_sublist _
      · rw [List.map_append]
        apply hes.append
        have he := h e (by simp)
        cases hf : e.failure? with
        | none => exact List.nil_sublist _
        | some f =>
            rw [hf] at he
            simp [he f rfl]

theorem time_of_mem_events {a : Alarm} {ops : List Op} :
    ∀ e ∈ a.events ops, ∀ f ∈ e.failure?, f.time = e.now := by
  intro e he
  obtain ⟨⟨op, reply, effects⟩, -, hshown⟩ := List.mem_flatMap.mp he
  exact Event.time_of_shown (Option.mem_toList.mp hshown)

/-! ### Pruning twice -/

theorem inWindow_append (a : Alarm) (now : Instant) (fs gs : List Failure) :
    a.inWindow now (fs ++ gs) = a.inWindow now fs ++ a.inWindow now gs :=
  List.filter_append ..

/-- A window that ends later makes an earlier look without effect. -/
theorem inWindow_inWindow (a : Alarm) {now later : Instant} (h : a.cutoff now ≤ a.cutoff later)
    (fs : List Failure) : a.inWindow later (a.inWindow now fs) = a.inWindow later fs := by
  unfold inWindow
  rw [List.filter_filter]
  apply List.filter_congr
  intro f _
  rw [← Bool.decide_and]
  exact decide_eq_decide.mpr ⟨And.left, fun hf => ⟨hf, lt_of_le_of_lt h hf⟩⟩

/-- What the events left of the past and the past itself cannot be told apart at a later reading. The
induction is on the run from its end, for all later readings at once: the last event prunes at its own
cutoff, and the hypothesis is needed at the later one. -/
theorem inWindow_foldl_left (a : Alarm) {es : List Event} {later : Instant}
    (h : Steady (es.map Event.now ++ [later])) :
    a.inWindow later (es.foldl a.left []) = a.inWindow later (sinceCrossing es) := by
  induction es using List.reverseRecOn with
  | nil => rfl
  | append_singleton es e ih =>
      rw [List.foldl_append, sinceCrossing_concat]
      show a.inWindow later (a.left (es.foldl a.left []) e) = _
      cases he : e.isCrossing with
      | true =>
          rw [left_of_crossing he]
          rfl
      | false =>
          rw [List.map_append, List.append_assoc] at h
          -- What the event prunes would not be in the later window anyway.
          have hle : a.cutoff e.now ≤ a.cutoff later := by
            have hpair := (List.pairwise_append.mp h.ordered).2.1
            apply Instant.cutoff_mono
            · exact h.ordinary _ (by simp)
            · exact h.ordinary _ (by simp)
            · exact (List.pairwise_cons.mp hpair).1 later (by simp)
          have hes : Steady (es.map Event.now ++ [later]) :=
            h.of_sublist ((List.Sublist.refl _).append (List.sublist_cons_self _ _))
          rw [left_of_not_crossing he]
          unfold kept
          rw [inWindow_inWindow a hle, inWindow_append, ih hes, ← inWindow_append]
          rfl

/-- **The store agrees with the history** at every reading that is not earlier than those before. -/
theorem inWindow_store {a : Alarm} {ops : List Op} {now : Instant}
    (h : Steady (a.readings ops ++ [now])) :
    a.inWindow now (a.after ops).store.failures =
      a.inWindow now (sinceCrossing (a.events ops)) := by
  rw [store_after]
  exact a.inWindow_foldl_left h

/-- The failures in the window are sorted by time, the one that is being recorded included. -/
theorem sorted_inWindow {a : Alarm} {ops : List Op} {now : Instant}
    (h : Steady (a.readings ops ++ [now])) (f? : Option Failure) (hf : ∀ f ∈ f?, f.time = now) :
    ((a.inWindow now (sinceCrossing (a.events ops) ++ f?.toList)).map (·.time)).Pairwise (· ≤ ·) := by
  have hsub : ((sinceCrossing (a.events ops) ++ f?.toList).map (·.time)).Sublist
      (a.readings ops ++ [now]) := by
    rw [List.map_append]
    apply (times_sinceCrossing time_of_mem_events).append
    cases f? with
    | none => exact List.nil_sublist _
    | some f =>
        have htime : f.time = now := hf f rfl
        rw [← htime]
        exact List.Sublist.refl _
  exact List.Pairwise.sublist ((List.filter_sublist.map _).trans hsub) h.ordered

/-! ### The calls -/

/-- **Every call sees the whole history.** On a clock that does not run backward and shows no leap
second, a call with a reading `now` answers as if nothing had ever been pruned: what counts are the
failures recorded since the last crossing, this one included, that are later than the cutoff at `now`,
which is the length of the window before `now` or else the first instant. The threshold is crossed
exactly if they reach it, and else they are what the store holds. -/
theorem window_of_history (a : Alarm) (ops : List Op) (now : Instant)
    (hsteady : Steady (a.readings ops ++ [now])) (hopen : (a.after ops).poisoned = false) :
    (((a.cutoff now).secs = now.secs - a.policy.windowSeconds ∧ (a.cutoff now).nanos = now.nanos) ∨
        (now.secs - a.policy.windowSeconds < Instant.minSecs ∧ a.cutoff now = Instant.min)) ∧
      (∀ p : LoggingPayload,
        let window := a.inWindow now (sinceCrossing (a.events ops) ++ [p.toFailure now])
        let r := a.step (a.after ops) (.record (some now) ⟨some p⟩)
        (window.map (·.time)).Pairwise (· ≤ ·) ∧
          (r.2.1.Crosses ↔ a.policy.threshold ≤ window.length ∨ a.policy.threshold ≤ 0) ∧
          (r.2.1.Crosses → r.1.store.failures = []) ∧
          (¬ r.2.1.Crosses → r.2.1 = .record (.finished (.ok (.recorded window.length))) ∧
            r.1.store.failures = window)) ∧
      (let window := a.inWindow now (sinceCrossing (a.events ops))
       let r := a.step (a.after ops) (.retained (some now))
       (window.map (·.time)).Pairwise (· ≤ ·) ∧
        r.2.1 = .retained (.finished (.ok window.length)) ∧ r.1.store.failures = window) := by
  have hstore := inWindow_store hsteady
  refine ⟨?_, ?_, ?_⟩
  -- The cutoff: an ordinary second is moved by whole seconds, so the nanoseconds stay.
  · have hleap : ¬ now.IsLeap := hsteady.ordinary now (by simp)
    have hparts := Instant.cutoff_parts now a.policy.windowSeconds (Or.inr hleap)
    have hnanos : now.nanos % 1000000000 = now.nanos := by
      unfold Instant.IsLeap at hleap
      omega
    rw [Instant.carry_eq_zero hleap, Int.natCast_zero, Int.add_zero, hnanos] at hparts
    exact hparts
  · intro p
    -- The store has dropped only what is out of this window as well.
    have hkept : a.inWindow now ((a.after ops).store.failures ++ [p.toFailure now]) =
        a.inWindow now (sinceCrossing (a.events ops) ++ [p.toFailure now]) := by
      rw [inWindow_append, hstore, ← inWindow_append]
    intro window r
    refine ⟨sorted_inWindow hsteady (some (p.toFailure now)) (by rintro f ⟨⟩; rfl), ?_⟩
    rw [← isReached_iff]
    cases hreached : a.policy.isReached window.length with
    | false =>
        obtain ⟨hreply, hleft⟩ := record_below (p := p) hopen (by rw [hkept]; exact hreached)
        rw [hkept] at hreply hleft
        have hr : r.2.1 = .record (.finished (.ok (.recorded window.length))) :=
          congrArg Reply.record hreply
        have hc : ¬ r.2.1.Crosses := hr ▸ not_crosses_finished _
        exact ⟨iff_of_false hc Bool.false_ne_true, fun h => absurd h hc, fun _ => ⟨hr, hleft⟩⟩
    | true =>
        have hcross : a.Crossing (a.after ops) now p r :=
          record_reached hopen (by rw [hkept]; exact hreached)
        have hc : r.2.1.Crosses := ⟨_, hcross.reply⟩
        exact ⟨iff_of_true hc rfl, fun _ => congrArg Store.failures hcross.store,
          fun h => absurd hc h⟩
  · intro window r
    have hsorted := sorted_inWindow hsteady none (by rintro f ⟨⟩)
    rw [Option.toList_none, List.append_nil] at hsorted
    obtain ⟨hreply, hleft⟩ := retained_counted (a := a) now hopen
    rw [hstore] at hreply hleft
    exact ⟨hsorted, congrArg Reply.retained hreply, hleft⟩

/-- An alarm over the failures of the last minute. -/
def perMinute (threshold : Int) : Alarm where
  policy := { windowSeconds := 60, threshold := threshold }
  accepted := by show 60 ≤ Policy.maxWindow; decide
  dispatcher := ⟨⟨"key", by decide⟩, "source", "component"⟩
  watchdog := .off

/-- The start of the `n`-th second. -/
def second (n : Nat) (h : Instant.Valid n 0 := by decide) : Instant := ⟨n, 0, h⟩

/-- A run with a crossing at second 40, whose page is refused, a call without a payload, and then a
failure at second 80. -/
def boundaryRun : List Op := [
  .record (some (second 0)) ⟨some {}⟩, .retained (some (second 30)),
  .record (some (second 40)) ⟨some {}⟩, .complete 0 (.error (.http "refused")),
  .record none ⟨none⟩, .record (some (second 80)) ⟨some {}⟩]

/-- At second 140 the failure of second 80 has just left the window, and those before the crossing do
not count any more. -/
theorem window_of_history_at_cutoff :
    Steady ((perMinute 2).readings boundaryRun ++ [second 140]) ∧
      ((perMinute 2).after boundaryRun).poisoned = false ∧
      ((perMinute 2).step ((perMinute 2).after boundaryRun)
        (.record (some (second 140)) ⟨some {}⟩)).2.1 = .record (.finished (.ok (.recorded 1))) := by
  have hsteady : Steady ((perMinute 2).readings boundaryRun ++ [second 140]) :=
    ⟨by decide, by decide⟩
  have hopen : ((perMinute 2).after boundaryRun).poisoned = false := by decide
  obtain ⟨-, hrecord, -⟩ := window_of_history (perMinute 2) boundaryRun (second 140) hsteady hopen
  obtain ⟨-, hcrosses, -, hbelow⟩ := hrecord {}
  exact ⟨hsteady, hopen, (hbelow (mt hcrosses.mp (by decide))).1⟩

end Alarm
end FailureAlarm
