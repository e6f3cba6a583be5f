import FailureAlarm.Proofs.Ledger
import FailureAlarm.Proofs.Separation

/-!
# What the metrics count

The metrics are written in many places: in the calls, on each of their ways out, where a timer fires, and
where a sending ends, at whatever time that is. None of these places knows what the others have written.
This module follows all of them through a run:

* `step_counts` says what one step adds to each metric, to the log and to the pages under way;
* `underWay_after` and `length_handed` say that each page that was handed over is under way or has come to
  its end, and is not both;
* `timely_after` says whose timers fire, in terms of what happens to requests: as long as no timer is kept
  waiting, of those requests that stay in flight for the whole budget.

`metrics_agree` puts them together: at every point of every run each metric is the number of things that
happened.
-/

namespace FailureAlarm

open Lifetime

namespace Alarm

variable {a : Alarm} {s : State}

/-! ### What happens in a run -/

/-- The step asks for a page of one's own. -/
def Op.isDispatch : Op → Bool
  | .dispatch _ _ => true
  | _ => false

/-- The request that a step from `s` finds hanging: the timer fires that was the first to come due. -/
def hangs? (a : Alarm) (s : State) : Op → Option Request
  | .fire =>
    match a.watchdog with
    | .off => none
    | .hanging _ => s.due.head?.map (·.request)
  | _ => none

/-- The requests that are found hanging in a run from `s`. -/
def hangs (a : Alarm) (s : State) : List Op → List Request
  | [] => []
  | op :: ops => (a.hangs? s op).toList ++ a.hangs (a.step s op).1 ops

/-- The sending that a step ends, with the result of its end. -/
def ended? : Op → Reply → Option (Nat × Except PagingError Unit)
  | .complete number result, .complete (some _) => some (number, result)
  | _, _ => none

/-- The sendings that ended in a run, each with its result. -/
def ends (a : Alarm) : List Op → List (Nat × Except PagingError Unit) :=
  a.collect fun op reply _ => (ended? op reply).toList

/-- The pages that were handed over in a run, with the numbers of their sendings. -/
def handed (a : Alarm) : List Op → List (Nat × Page) := a.collect fun _ _ effects => effects.pages

/-- The pages under way, with the numbers of their sendings. -/
def underWay (s : State) : List (Nat × Page) := s.sending.map fun x => (x.number, x.page)

/-- The errors that the dispatcher logs in a step. -/
def dispatchErrors (effects : Effects) : List LogLine :=
  effects.log.filter fun l => l.level = .error && l.target = "alerting::dispatcher"

/-- The errors that the dispatcher logs in a run. -/
def errorLines (a : Alarm) : List Op → List LogLine :=
  a.collect fun _ _ effects => dispatchErrors effects

/-- The line about a sending that failed. -/
def failureLine? : Except PagingError Unit → Option LogLine
  | .ok () => none
  | .error e => some ⟨.error, "alerting::dispatcher", s!"Alert dispatch failed: {e.message}"⟩

@[simp] theorem dispatchErrors_append (x y : Effects) :
    dispatchErrors (x ++ y) = dispatchErrors x ++ dispatchErrors y := List.filter_append ..

/-- The store logs no errors of the dispatcher. -/
theorem dispatchErrors_pruneLog (removed : Nat) (cutoff : Instant) :
    dispatchErrors (pruneLog removed cutoff) = [] := by
  unfold dispatchErrors pruneLog
  split <;> rfl

/-! ### What a step counts -/

/-- The gauge shows the size of the store, if it has been set. -/
def GaugeAgrees (s : State) : Prop := ∀ n, s.metrics.retained = some n → n = s.store.size

/-- What a step adds to what is counted. -/
structure Counts (a : Alarm) (s : State) (op : Op) (r : State × Reply × Effects) : Prop where
  pages : r.2.2.pages.length =
    (if r.2.1.Crosses then 1 else 0) + (a.hangs? s op).toList.length + op.isDispatch.toNat
  sent : ended? op r.2.1 = none → underWay r.1 = underWay s ++ r.2.2.pages
  ended : ∀ y, ended? op r.2.1 = some y → r.2.2.pages = [] ∧ y.1 ∈ (underWay s).map (·.1) ∧
    underWay r.1 = (underWay s).filter (·.1 ≠ y.1)
  dispatched : r.1.metrics.dispatched =
    s.metrics.dispatched + (ended? op r.2.1).toList.countP (·.2.isOk)
  failures : r.1.metrics.dispatchFailures =
    s.metrics.dispatchFailures + (ended? op r.2.1).toList.countP (!·.2.isOk)
  hanging : r.1.metrics.hanging = s.metrics.hanging + (a.hangs? s op).toList.length
  errors : dispatchErrors r.2.2 = (ended? op r.2.1).toList.filterMap fun x => failureLine? x.2
  gauge : GaugeAgrees s → GaugeAgrees r.1

/-- To record a failure hands over a page only if the threshold is reached; the sending of it begins and
does not end here. -/
theorem counts_record (a : Alarm) (s : State) (reading : Reading) (n : Notification) :
    a.Counts s (.record reading n) (a.step s (.record reading n)) := by
  have hspec := a.record_spec reading n s
  rw [step_record]
  generalize a.record reading n s = r at hspec ⊢
  cases hspec with
  -- Pruning logs, but it hands over no page and logs no error.
  | below _ _ _ =>
      refine ⟨?_, fun _ => ?_, fun y hy => (by cases hy), rfl, rfl, rfl, ?_, ?_⟩
      · rw [Effects.pages_append, pages_pruneLog]
        rfl
      · rw [Effects.pages_append, pages_pruneLog]
        exact (List.append_nil _).symm
      · rw [dispatchErrors_append, dispatchErrors_pruneLog]
        rfl
      · rintro - n ⟨⟩
        rfl
  | reached _ _ _ =>
      refine ⟨?_, fun _ => ?_, fun y hy => (by cases hy), rfl, rfl, rfl, ?_, ?_⟩
      · rw [Effects.pages_append, Effects.pages_append, pages_pruneLog]
        rfl
      · rw [Effects.pages_append, Effects.pages_append, pages_pruneLog]
        exact List.map_append
      · rw [dispatchErrors_append, dispatchErrors_append, dispatchErrors_pruneLog]
        rfl
      · rintro - n ⟨⟩
        rfl
  | _ => exact ⟨rfl, fun _ => (List.append_nil _).symm, fun y hy => (by cases hy), rfl, rfl, rfl, rfl, id⟩

/-- To count the failures hands over nothing and sets the gauge. -/
theorem counts_retained (a : Alarm) (s : State) (reading : Reading) :
    a.Counts s (.retained reading) (a.step s (.retained reading)) := by
  have hspec := a.retained_spec reading s
  rw [step_retained]
  generalize a.retained reading s = r at hspec ⊢
  cases hspec with
  | counted _ _ =>
      refine ⟨?_, fun _ => ?_, fun y hy => (by cases hy), rfl, rfl, rfl,
        dispatchErrors_pruneLog _ _, ?_⟩
      · rw [pages_pruneLog]
        rfl
      · rw [pages_pruneLog]
        exact (List.append_nil _).symm
      · rintro - n ⟨⟩
        rfl
  | _ => exact ⟨rfl, fun _ => (List.append_nil _).symm, fun y hy => (by cases hy), rfl, rfl, rfl, rfl, id⟩

/-- To watch a request counts nothing yet. -/
theorem counts_watch (a : Alarm) (s : State) (r : Request) :
    a.Counts s (.watch r) (a.step s (.watch r)) := by
  unfold step watch
  cases a.watchdog with
  | off => exact ⟨rfl, fun _ => (List.append_nil _).symm, fun y hy => (by cases hy), rfl, rfl, rfl, rfl, id⟩
  | hanging b => exact ⟨rfl, fun _ => (List.append_nil _).symm, fun y hy => (by cases hy), rfl, rfl, rfl, rfl, id⟩

/-- A timer that fires finds one request hanging, and hands over the page about it. -/
theorem counts_fire (a : Alarm) (s : State) : a.Counts s .fire (a.step s .fire) := by
  -- The first timer that is due is the one that goes off.
  have hhead : s.due.head? = s.watched.find? (·.isDue s.elapsed) := List.head?_filter
  unfold step fire
  cases ha : a.watchdog with
  | off =>
      have hnone : a.hangs? s .fire = none := by simp [hangs?, ha]
      refine ⟨?_, fun _ => (List.append_nil _).symm, fun y hy => (by cases hy), rfl, rfl, ?_, rfl, id⟩
      · rw [hnone]
        rfl
      · rw [hnone]
        rfl
  | hanging b =>
      cases hfind : s.watched.find? (·.isDue s.elapsed) with
      | none =>
          have hnone : a.hangs? s .fire = none := by simp [hangs?, ha, hhead, hfind]
          refine ⟨?_, fun _ => (List.append_nil _).symm, fun y hy => (by cases hy), rfl, rfl, ?_, rfl, id⟩
          · rw [hnone]
            rfl
          · rw [hnone]
            rfl
      | some w =>
          have hsome : a.hangs? s .fire = some w.request := by simp [hangs?, ha, hhead, hfind]
          refine ⟨?_, fun _ => List.map_append, fun y hy => (by cases hy), rfl, rfl, ?_, rfl, id⟩
          · rw [hsome]
            rfl
          · rw [hsome]
            rfl

/-- The end of a sending is counted by its result and logged if it is bad, whoever waits for it. The end
of what is not under way is ignored. -/
theorem counts_complete (a : Alarm) (s : State) (number : Nat) (result : Except PagingError Unit) :
    a.Counts s (.complete number result) (a.step s (.complete number result)) := by
  cases hfind : s.sending.find? (·.number = number) with
  -- Nothing is under way with this number: nothing happens.
  | none =>
      have hstep : a.step s (.complete number result) = (s, .complete none, {}) := by
        simp [step, State.complete, hfind]
      rw [hstep]
      exact ⟨rfl, fun _ => (List.append_nil _).symm, fun y hy => (by cases hy), rfl, rfl, rfl, rfl, id⟩
  | some x =>
      have hstep : a.step s (.complete number result) =
          ({ s with
              sending := s.sending.filter (·.number ≠ number)
              metrics := State.count s.metrics result },
            .complete (some (State.answer result x.sender)),
            { log := State.completionLog x result }) := by
        simp [step, State.complete, hfind]
      rw [hstep]
      refine ⟨rfl, fun h => (by cases h), ?_, ?_, ?_, ?_, ?_, ?_⟩
      · rintro y ⟨⟩
        -- What was found is what ends, and it was under way.
        have hx : x.number = number := by simpa using List.find?_some hfind
        refine ⟨rfl, ?_, ?_⟩
        · rw [underWay, List.map_map]
          exact hx ▸ List.mem_map_of_mem (List.mem_of_find?_eq_some hfind)
        · show (s.sending.filter _).map _ = (s.sending.map _).filter _
          rw [List.filter_map]
          rfl
      · cases result <;> rfl
      · cases result <;> rfl
      · cases result <;> rfl
      · cases result with
        | ok _ => rfl
        | error e =>
          -- Whoever waits for the sending, an error is logged in the same line.
          obtain ⟨_, sender, _⟩ := x
          cases sender <;> rfl
      · intro hgauge n hn
        refine hgauge n ?_
        cases result <;> exact hn

/-- **What one step adds to the metrics**, whatever the state is. -/
theorem step_counts (a : Alarm) (s : State) (op : Op) : a.Counts s op (a.step s op) := by
  cases op with
  | record reading n => exact a.counts_record s reading n
  | retained reading => exact a.counts_retained s reading
  | dispatch message details =>
      exact ⟨rfl, fun _ => List.map_append, fun y hy => (by cases hy), rfl, rfl, rfl, rfl, id⟩
  | watch r => exact a.counts_watch s r
  | release _ =>
      exact ⟨rfl, fun _ => (List.append_nil _).symm, fun y hy => (by cases hy), rfl, rfl, rfl, rfl, id⟩
  | pass d =>
      exact ⟨rfl, fun _ => (List.append_nil _).symm, fun y hy => (by cases hy), rfl, rfl, rfl, rfl, id⟩
  | fire => exact a.counts_fire s
  | complete number result => exact a.counts_complete s number result

/-! ### Pages that are handed over -/

theorem ends_concat (a : Alarm) (ops : List Op) (op : Op) :
    a.ends (ops ++ [op]) = a.ends ops ++ (ended? op (a.step (a.after ops) op).2.1).toList :=
  a.collect_concat ..

/-- Pages are handed over step by step. -/
theorem handed_concat (a : Alarm) (ops : List Op) (op : Op) :
    a.handed (ops ++ [op]) = a.handed ops ++ (a.step (a.after ops) op).2.2.pages :=
  a.collect_concat ..

/-- The pages of a run, without the numbers of their sendings. -/
theorem pages_eq_map_handed (a : Alarm) (ops : List Op) : a.pages ops = (a.handed ops).map (·.2) := by
  unfold pages handed collect
  rw [List.map_flatMap]

/-- The sendings that have ended are those that have been answered. -/
theorem numbers_ends (a : Alarm) (ops : List Op) :
    (a.ends ops).map (·.1) = (a.answers ops).map (·.1) := by
  have hsame (op : Op) (reply : Reply) :
      (ended? op reply).toList.map (·.1) = (told? op reply).toList.map (·.1) := by
    cases op with
    | complete number result =>
        cases reply with
        | complete answer => cases answer <;> rfl
        | _ => rfl
    | _ => rfl
  unfold ends answers collect
  rw [List.map_flatMap, List.map_flatMap]
  simp only [hsame]

/-- What the last step finds hanging depends on the state that the others have led to. -/
theorem hangs_concat (a : Alarm) (s : State) (ops : List Op) (op : Op) :
    a.hangs s (ops ++ [op]) = a.hangs s ops ++ (a.hangs? (a.run s ops).1 op).toList := by
  induction ops generalizing s with
  | nil => exact List.append_nil _
  | cons op' ops ih =>
      show (a.hangs? s op').toList ++ a.hangs (a.step s op').1 (ops ++ [op]) = _
      rw [ih, ← List.append_assoc]
      rfl

/-- The pages under way have the numbers of their sendings. -/
theorem numbers_underWay (s : State) : (underWay s).map (·.1) = s.sending.map (·.number) := by
  unfold underWay
  rw [List.map_map]
  rfl

/-- A page that is handed over has a number that no page has had before. -/
theorem le_number_of_handed {a : Alarm} {s : State} {op : Op}
    (h : ended? op (a.step s op).2.1 = none) :
    ∀ x ∈ (a.step s op).2.2.pages, s.nextSending ≤ x.1 := by
  intro x hx
  cases hend : op.isEnd with
  | true =>
      cases op with
      | complete number result => rw [a.pages_complete] at hx; cases hx
      | _ => cases hend
  | false =>
      obtain ⟨xs, hsending, hnumbers, -⟩ := a.step_sending s hend
      have hsent := (a.step_counts s op).sent h
      unfold underWay at hsent
      rw [hsending, List.map_append, List.append_cancel_left_eq] at hsent
      rw [← hsent] at hx
      obtain ⟨y, hy, rfl⟩ := List.mem_map.mp hx
      have hmem : y.number ∈ xs.map (·.number) := List.mem_map_of_mem hy
      rw [hnumbers] at hmem
      exact (List.mem_range'_1.mp hmem).1

/-- **The pages under way are those that were handed over and whose sending has not ended.** -/
theorem underWay_after (a : Alarm) (ops : List Op) :
    underWay (a.after ops) = (a.handed ops).filter fun x => x.1 ∉ (a.ends ops).map (·.1) := by
  induction ops using List.reverseRecOn with
  | nil => rfl
  | append_singleton ops op ih =>
      have hcounts := a.step_counts (a.after ops) op
      rw [after_concat, handed_concat, ends_concat]
      cases hended : ended? op (a.step (a.after ops) op).2.1 with
      | none =>
          have hnew : ((a.step (a.after ops) op).2.2.pages.filter
              fun x => x.1 ∉ (a.ends ops).map (·.1)) = (a.step (a.after ops) op).2.2.pages := by
            refine List.filter_eq_self.mpr fun x hx => decide_eq_true fun hmem => ?_
            rw [numbers_ends] at hmem
            obtain ⟨y, hy, hxy⟩ := List.mem_map.mp hmem
            -- Sendings that have ended had lower numbers than those that begin now.
            have hlt := (number_of_answer y hy).1
            have hle := le_number_of_handed hended x hx
            omega
          rw [hcounts.sent hended, ih, Option.toList_none, List.append_nil, List.filter_append, hnew]
      | some y =>
          obtain ⟨hpages, -, hsending⟩ := hcounts.ended y hended
          rw [hsending, hpages, ih, List.append_nil, List.filter_filter]
          refine List.filter_congr fun x _ => ?_
          rw [← Bool.decide_and, decide_eq_decide, Option.toList_some, List.map_append,
            List.mem_append, not_or, and_comm, List.map_singleton, List.mem_singleton]

/-- Each page that was handed over is under way, or its sending has ended. -/
theorem length_handed (a : Alarm) (ops : List Op) :
    (a.handed ops).length = (a.ends ops).length + (a.after ops).sending.length := by
  induction ops using List.reverseRecOn with
  | nil => rfl
  | append_singleton ops op ih =>
      have hcounts := a.step_counts (a.after ops) op
      have hlength (s : State) : s.sending.length = (underWay s).length := List.length_map _ |>.symm
      rw [hlength] at ih ⊢
      rw [after_concat, handed_concat, ends_concat, List.length_append, List.length_append, ih]
      cases hended : ended? op (a.step (a.after ops) op).2.1 with
      | none =>
          rw [hcounts.sent hended, List.length_append]
          simp [Nat.add_assoc]
      | some y =>
          obtain ⟨hpages, hmem, hsending⟩ := hcounts.ended y hended
          have hnodup := (a.numbered_after ops).nodup
          rw [← numbers_underWay] at hnodup
          -- No two sendings have the same number, so the end takes out exactly one.
          have hone : ((underWay (a.after ops)).filter (·.1 ≠ y.1)).map (·.1) =
              ((underWay (a.after ops)).map (·.1)).erase y.1 := by
            rw [hnodup.erase_eq_filter, List.filter_map]
            congr 2
            funext x
            rw [Bool.eq_iff_iff]
            simp [bne]
          have hless := congrArg List.length hone
          rw [List.length_map, List.length_erase_of_mem hmem, List.length_map] at hless
          have hpos := List.length_pos_of_mem hmem
          rw [List.length_map] at hpos
          rw [hsending, hpages, hless]
          simp only [Option.toList_some, List.length_cons, List.length_nil]
          omega

/-! ### Requests that hang -/

/-- What a step does to requests. -/
def Op.life? : Op → Option LifeEvent
  | .watch r => some (.start r)
  | .release id => some (.stop id)
  | .pass d => some (.pass d)
  | _ => none

/-- What happens to requests in a run. -/
def history (ops : List Op) : List LifeEvent := ops.filterMap Op.life?

/-- What the last step does to requests comes last. -/
theorem history_concat (ops : List Op) (op : Op) :
    history (ops ++ [op]) = history ops ++ op.life?.toList := by
  unfold history
  rw [List.filterMap_append]
  cases h : op.life? <;> simp [h]

/-- No timer that has come due is kept waiting when time goes on, or when a request ends. -/
def Punctual (a : Alarm) (ops : List Op) : Prop :=
  ∀ before op later, ops = before ++ op :: later →
    (∃ d, op = .pass d) ∨ (∃ id, op = .release id) → (a.after before).due = []

/-- What is punctual was so all the time. -/
theorem Punctual.of_concat {ops : List Op} {op : Op} (h : a.Punctual (ops ++ [op])) :
    a.Punctual ops := by
  rintro before op' later rfl hop
  exact h before op' (later ++ [op]) (by simp) hop

/-- The requests of a history that have hung are those whose timers have fired and those whose timers
have just come due; the others in flight are still waited for. -/
structure Timely (b : Duration) (h : List LifeEvent) (fired : List Request) (s : State) : Prop where
  elapsed : s.elapsed = ⟨Lifetime.elapsed h⟩
  waiting : s.watched.filter (!·.isDue s.elapsed) =
    (young b h).map (·.watched b (Lifetime.elapsed h))
  hung : hung b h = fired ++ s.due.map (·.request)

variable {b : Duration} {h : List LifeEvent} {fired : List Request}

/-- A step that leaves the watch and the clock alone keeps what is known about timers. -/
theorem Timely.of_sameWatch {s s' : State} (ht : Timely b h fired s) (hs : s'.SameWatch s) :
    Timely b h fired s' := by
  refine ⟨hs.elapsed.trans ht.elapsed, ?_, ?_⟩
  · rw [hs.watched, hs.elapsed]
    exact ht.waiting
  · rw [hs.due]
    exact ht.hung

/-- One thing more happens to requests while no timer is kept waiting. -/
theorem Timely.happens {s s' : State} {e : LifeEvent} (ht : Timely b h fired s) (hdue : s.due = [])
    (helapsed : s'.elapsed = ⟨Lifetime.elapsed (h ++ [e])⟩)
    (hwatched : s'.watched =
      (awaited b h e).map (·.watched b (Lifetime.elapsed (h ++ [e])))) :
    Timely b (h ++ [e]) fired s' := by
  have hhung := ht.hung
  rw [hdue, List.map_nil, List.append_nil] at hhung
  refine ⟨helapsed, ?_, ?_⟩
  · rw [hwatched, helapsed, List.filter_map, young_concat]
    simp only [Function.comp_def, isDue_watched]
  · unfold State.due
    rw [hwatched, helapsed, List.filter_map, hung_concat, hhung, List.map_map]
    simp only [Function.comp_def, isDue_watched]
    rfl

/-- While no timer is kept waiting, all that are watched are waited for. -/
theorem Timely.watched {s : State} (ht : Timely b h fired s) (hdue : s.due = []) :
    s.watched = (young b h).map (·.watched b (Lifetime.elapsed h)) := by
  rw [← ht.waiting]
  refine (List.filter_eq_self.mpr fun w hw => ?_).symm
  simpa using List.filter_eq_nil_iff.mp hdue w hw

/-- A request is stopped while no timer is kept waiting. So it has not hung, and it is waited for no
longer. -/
theorem Timely.stop {s : State} (ht : Timely b h fired s) (hdue : s.due = []) (id : RequestId) :
    Timely b (h ++ [.stop id]) fired (release id s) := by
  have helapsed : Lifetime.elapsed (h ++ [.stop id]) = Lifetime.elapsed h := elapsed_append _ _
  refine ht.happens hdue ?_ ?_
  · rw [helapsed]
    exact ht.elapsed
  · show s.watched.filter _ = _
    rw [ht.watched hdue, helapsed, awaited_stop, List.filter_map]
    rfl

/-- Time goes on while no timer is kept waiting. Of those that were waited for, the timers of some may
come due. -/
theorem Timely.pass {s : State} (ht : Timely b h fired s) (hdue : s.due = []) (d : Duration) :
    Timely b (h ++ [.pass d]) fired (Alarm.pass d s) := by
  have helapsed : Lifetime.elapsed (h ++ [.pass d]) = Lifetime.elapsed h + d.nanoseconds :=
    elapsed_append _ _
  refine ht.happens hdue ?_ ?_
  · show (⟨s.elapsed.nanoseconds + d.nanoseconds⟩ : Duration) = _
    rw [ht.elapsed, helapsed]
  · show s.watched = _
    rw [ht.watched hdue, helapsed, awaited_pass, List.map_map]
    refine List.map_congr_left fun x _ => ?_
    exact congrArg (Watched.mk x.request) (x.deadline_older b d _).symm

/-- A request that is started is waited for, or its timer comes due at once. -/
theorem Timely.start {s : State} (ha : a.watchdog = .hanging b) (ht : Timely b h fired s)
    (r : Request) : Timely b (h ++ [.start r]) fired (a.watch true r s).1 := by
  have helapsed : Lifetime.elapsed (h ++ [.start r]) = Lifetime.elapsed h := elapsed_append _ _
  have hwatch : (a.watch true r s).1 = { s with watched := s.watched ++
      [(⟨r, 0, false⟩ : Life).watched b (Lifetime.elapsed h)] } := by
    unfold watch
    rw [ha, ht.elapsed]
    rfl
  -- The new call has lasted no time, so it is due exactly if the budget is zero.
  have hnew (f : Bool → Bool) : ([(⟨r, 0, false⟩ : Life).watched b (Lifetime.elapsed h)].filter
      fun w => f (w.isDue s.elapsed)) = ([(⟨r, 0, false⟩ : Life)].filter
        fun x => f (x.reached b)).map (·.watched b (Lifetime.elapsed h)) := by
    rw [ht.elapsed, List.filter_singleton, isDue_watched, List.filter_singleton]
    cases f ((⟨r, 0, false⟩ : Life).reached b) <;> rfl
  -- Those that are young have not reached the budget, and none of them becomes due by this.
  have hwaiting : (young b h).filter (!·.reached b) = young b h :=
    List.filter_eq_self.mpr fun x hx => by simp [(inFlight_of_mem_young x hx).2]
  have hnone : (young b h).filter (·.reached b) = [] :=
    List.filter_eq_nil_iff.mpr fun x hx => by simp [(inFlight_of_mem_young x hx).2]
  rw [hwatch]
  refine ⟨?_, ?_, ?_⟩
  · rw [helapsed]
    exact ht.elapsed
  · show (s.watched ++ _).filter _ = _
    rw [List.filter_append, ht.waiting, young_concat, awaited_start, List.filter_append, hwaiting,
      List.map_append, helapsed]
    exact congrArg _ (hnew not)
  · show _ = fired ++ ((s.watched ++ _).filter _).map _
    rw [List.filter_append, List.map_append, ← List.append_assoc, hung_concat, awaited_start,
      List.filter_append, hnone, List.nil_append, ht.hung]
    refine congrArg _ ?_
    refine Eq.trans ?_ (congrArg _ (hnew id).symm)
    rw [List.map_map]
    rfl

/-- The first timer that has come due fires. The request has hung before and after that, but goes over to
those that have been found hanging. -/
theorem Timely.fire {s : State} (ha : a.watchdog = .hanging b) (ht : Timely b h fired s) :
    Timely b h (fired ++ (a.hangs? s .fire).toList) (a.step s .fire).1 := by
  have hhangs : a.hangs? s .fire = s.due.head?.map (·.request) := by simp [hangs?, ha]
  have hhung := ht.hung
  rw [hhangs]
  cases hdue : s.due with
  | nil =>
      have hstep : (a.step s .fire).1 = s := by simp [step, a.fire_none hdue]
      rw [hstep]
      simpa using ht
  | cons w rest =>
      obtain ⟨s', effects, hfire, hrest, hleft, helapsed, -⟩ := Alarm.fire_some ha hdue
      have hstep : (a.step s .fire).1 = s' := by simp [step, hfire]
      rw [hstep]
      refine ⟨helapsed.trans ht.elapsed, ?_, ?_⟩
      · rw [helapsed, hleft]
        exact ht.waiting
      · rw [hhung, hdue, hrest, List.append_assoc]
        rfl

/-- **What a step keeps about timers.** A step that is a call, a dispatch or the end of a sending leaves
the watch alone; a step that does something to requests makes their history longer; and a timer that fires
is one of those that have come due. Only when time passes or a request ends does it matter that none is
kept waiting: the ages of those that hang would go on. -/
theorem Timely.step {s : State} (ha : a.watchdog = .hanging b) (ht : Timely b h fired s) (op : Op)
    (hop : (∃ d, op = .pass d) ∨ (∃ id, op = .release id) → s.due = []) :
    Timely b (h ++ op.life?.toList) (fired ++ (a.hangs? s op).toList) (a.step s op).1 := by
  -- Most steps add neither to the history nor to those that have fired; the others add to one of them.
  have hquiet {s' : State} (hs : s'.SameWatch s) : Timely b (h ++ []) (fired ++ []) s' := by
    rw [List.append_nil, List.append_nil]
    exact ht.of_sameWatch hs
  have hlife {s' : State} {e : LifeEvent} (hs : Timely b (h ++ [e]) fired s') :
      Timely b (h ++ [e]) (fired ++ []) s' := by
    rw [List.append_nil]
    exact hs
  cases op with
  | record reading n => exact hquiet (Line.call_sameWatch a s (.record reading n))
  | retained reading => exact hquiet (Line.call_sameWatch a s (.retained reading))
  | dispatch message details => exact hquiet ⟨rfl, rfl⟩
  | complete number result => exact hquiet (s.complete_undisturbed number result).sameWatch
  | watch r => exact hlife (ht.start ha r)
  | release id => exact hlife (ht.stop (hop (.inr ⟨id, rfl⟩)) id)
  | pass d => exact hlife (ht.pass (hop (.inl ⟨d, rfl⟩)) d)
  | fire =>
      show Timely b (h ++ []) _ _
      rw [List.append_nil]
      exact ht.fire ha

/-- As long as timers fire in time, they fire for those requests that stay in flight for the whole
budget. -/
theorem timely_after {ops : List Op} (ha : a.watchdog = .hanging b) (hops : a.Punctual ops) :
    Timely b (history ops) (a.hangs {} ops) (a.after ops) := by
  induction ops using List.reverseRecOn with
  | nil => exact ⟨rfl, rfl, rfl⟩
  | append_singleton ops op ih =>
      rw [history_concat, hangs_concat, after_concat]
      exact (ih hops.of_concat).step ha op (hops ops op [] rfl)

/-! ### The metrics -/

/-- What has been counted in a run agrees with what happened in it. -/
structure Tallied (a : Alarm) (ops : List Op) : Prop where
  pages : (a.handed ops).length =
    (a.crossings ops).length + (a.hangs {} ops).length + ops.countP Op.isDispatch
  dispatched : (a.after ops).metrics.dispatched = (a.ends ops).countP (·.2.isOk)
  failures : (a.after ops).metrics.dispatchFailures = (a.ends ops).countP (!·.2.isOk)
  hanging : (a.after ops).metrics.hanging = (a.hangs {} ops).length
  errors : a.errorLines ops = (a.ends ops).filterMap fun x => failureLine? x.2
  gauge : GaugeAgrees (a.after ops)

/-- What the steps add comes to what has happened. The induction is on the run, and `step_counts` is what
carries it. -/
theorem tallied (a : Alarm) (ops : List Op) : a.Tallied ops := by
  induction ops using List.reverseRecOn with
  | nil => exact ⟨rfl, rfl, rfl, rfl, rfl, fun n hn => by cases hn⟩
  | append_singleton ops op ih =>
      have hcounts := a.step_counts (a.after ops) op
      have hhangs : a.hangs {} (ops ++ [op]) =
          a.hangs {} ops ++ (a.hangs? (a.after ops) op).toList := a.hangs_concat {} ops op
      have hdispatch : (if op.isDispatch = true then 1 else 0) = op.isDispatch.toNat := by
        cases op.isDispatch <;> rfl
      constructor
      · rw [handed_concat, crossings_concat, hhangs, List.countP_append, List.countP_singleton,
          List.length_append, List.length_append, List.length_append, ih.pages, hcounts.pages,
          apply_ite List.length, hdispatch, List.length_singleton, List.length_nil]
        omega
      · rw [after_concat, ends_concat, List.countP_append, hcounts.dispatched, ih.dispatched]
      · rw [after_concat, ends_concat, List.countP_append, hcounts.failures, ih.failures]
      · rw [after_concat, hhangs, List.length_append, hcounts.hanging, ih.hanging]
      · unfold errorLines
        rw [collect_concat, ends_concat, List.filterMap_append, hcounts.errors]
        exact congrArg (· ++ _) ih.errors
      · rw [after_concat]
        exact hcounts.gauge ih.gauge

/-- **The metrics agree with what happened.** At every point of every run, in which sendings end in any
order or never: each page that was handed over is that of a crossing, of a request found hanging or of a
dispatch, and each has been counted as sent or as failed or is under way, since it was handed over and
has not come to an end. What is counted as sent are the ends that were good, and what is counted as failed
are the others, each of which is also logged once, with its error. The requests that hang are counted, and
these are the ones that stay in flight for the whole budget, as long as no timer is kept waiting. Each
recorded failure is counted, and the gauge shows how many of them are retained. -/
theorem metrics_agree (a : Alarm) (ops : List Op) :
    let s := a.after ops
    (a.pages ops).length =
        (a.crossings ops).length + (a.hangs {} ops).length + ops.countP Op.isDispatch ∧
      (a.pages ops).length =
        s.metrics.dispatched + s.metrics.dispatchFailures + (underWay s).length ∧
      underWay s = (a.handed ops).filter (fun x => x.1 ∉ (a.ends ops).map (·.1)) ∧
      s.metrics.dispatched = (a.ends ops).countP (·.2.isOk) ∧
      s.metrics.dispatchFailures = (a.ends ops).countP (!·.2.isOk) ∧
      a.errorLines ops = (a.ends ops).filterMap (fun x => failureLine? x.2) ∧
      s.metrics.hanging = (a.hangs {} ops).length ∧
      (∀ b, a.watchdog = .hanging b → a.Punctual ops →
        hung b (history ops) = a.hangs {} ops ++ s.due.map (·.request)) ∧
      s.metrics.recorded = ((a.events ops).filterMap Event.failure?).length ∧
      ∀ n, s.metrics.retained = some n → n = s.store.size := by
  intro s
  have htallied := a.tallied ops
  have hledger := a.matches_after ops
  have hpages : (a.pages ops).length = (a.handed ops).length := by
    rw [pages_eq_map_handed, List.length_map]
  refine ⟨hpages.trans htallied.pages, ?_, a.underWay_after ops, htallied.dispatched,
    htallied.failures, htallied.errors, htallied.hanging, fun b ha hops => (timely_after ha hops).hung,
    ?_, htallied.gauge⟩
  -- Every page has been handed over, and by now its sending has ended or is under way.
  · have hends : (a.ends ops).length =
        (a.ends ops).countP (·.2.isOk) + (a.ends ops).countP (!·.2.isOk) := by
      simpa using List.length_eq_countP_add_countP (fun x => x.2.isOk) (l := a.ends ops)
    have hunderWay : (underWay s).length = s.sending.length := List.length_map _
    rw [hpages, a.length_handed, hends, hunderWay, htallied.dispatched, htallied.failures]
  · rw [hledger.counted, ← hledger.recorded, List.length_map]

end Alarm
end FailureAlarm
