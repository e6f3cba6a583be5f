import FailureAlarm.Proofs.Answering

/-!
# What a call to record a failure comes to

A call that records a failure is looked at from end to end. The failures that count are those retained
and the new one, less those at or before the start of the window (`counted`).

* If they do not reach the threshold, they stay, and that is all.
* If they do, they are announced in one page (`Announces`), which is handed over when the store is
  already empty. What the call returns is decided by the first end of the sending of that page
  (`resolved_awaited`), whenever it comes, and the store is not touched on the way by anything but other
  calls (`store_without_calls`).

`record_outcome` puts this together, for a run that goes on in any way and for a transport that decides
about the page at once.
-/

namespace FailureAlarm

/-- What has become of a page as soon as it was brought to a transport. -/
def Delivery.result? : Delivery → Option (Except PagingError Unit)
  | .done result => some result
  | .held => none

namespace Alarm

/-- What a call has come to that waits for the sending `number` of a page over `n` failures. -/
def awaited (number n : Nat) :
    Option (Except PagingError Unit) → Progress (Except AlarmError Outcome)
  | none => .sending number
  | some (.ok ()) => .finished (.ok (.alerted n))
  | some (.error e) => .finished (.error (.dispatch e))

theorem awaited_some (number n : Nat) (result : Except PagingError Unit) :
    awaited number n (some result) = .finished (verdict n result) := by
  cases result <;> rfl

/-! ### The failures that count -/

/-- The failures that count when one is recorded at `now`: those retained, in their order, and the new
one, less those at or before the start of the window. -/
def counted (policy : Policy) (now : Instant) (retained : List Failure) (p : LoggingPayload) :
    List Failure :=
  (retained ++ [p.toFailure now]).filter fun f => ¬ f.time ≤ now.cutoff policy.windowSeconds

theorem counted_eq_inWindow (a : Alarm) (now : Instant) (retained : List Failure)
    (p : LoggingPayload) :
    counted a.policy now retained p = a.inWindow now (retained ++ [p.toFailure now]) := by
  apply List.filter_congr
  intro f _
  rw [decide_eq_decide, not_le]
  exact Iff.rfl

/-- In a window of some length the new failure counts and is the last to count, unless the clock shows
the first instant. -/
theorem getLast_counted {policy : Policy} (hw : 1 ≤ policy.windowSeconds) (now : Instant)
    (retained : List Failure) (p : LoggingPayload) :
    (counted policy now retained p).getLast? = some (p.toFailure now) ↔ Instant.min < now := by
  constructor
  · intro hlast
    have hmem := List.mem_filter.mp (List.mem_of_getLast? hlast)
    have hlt : now.cutoff policy.windowSeconds < (p.toFailure now).time := by simpa using hmem.2
    exact lt_of_le_of_lt (Instant.first_le _) hlt
  · intro hnow
    have hlt : now.cutoff policy.windowSeconds < (p.toFailure now).time := Instant.cutoff_lt hw hnow
    unfold counted
    rw [List.filter_append, List.filter_cons_of_pos (by simpa using hlt), List.filter_nil]
    exact List.getLast?_concat

/-- The failures that count reach the threshold, unless it is positive and they are fewer. -/
theorem isReached_iff_not_below (p : Policy) (n : Nat) :
    p.isReached n = true ↔ ¬ (0 < p.threshold ∧ (n : Int) < p.threshold) := by
  rw [isReached_iff]
  omega

/-! ### The page -/

/-- The page announces these failures: their number, and a line for each of the last of them, as many as
the policy allows. It goes where the dispatcher was made for. -/
structure Announces (policy : Policy) (dispatcher : Dispatcher) (batch : List Failure) (page : Page) :
    Prop where
  summary : page.alert.summary =
    s!"High LLM API Failure Rate: {batch.length} failures in the last {policy.windowSeconds} seconds."
  details : ∃ older recent, batch = older ++ recent ∧
    recent.length = min batch.length policy.maxLines ∧
    page.alert.details = [("recent_errors", .array (recent.map fun f => .string (Digest.line f)))]
  source : page.alert.source = dispatcher.source
  component : page.alert.component = dispatcher.component
  routingKey : page.routingKey = dispatcher.routingKey.text

theorem announces_page (a : Alarm) (batch : List Failure) :
    Announces a.policy a.dispatcher batch (a.page batch) where
  summary := rfl
  details := by
    refine ⟨batch.take (batch.length - a.policy.maxLines),
      batch.drop (batch.length - a.policy.maxLines), (List.take_append_drop _ _).symm, ?_, ?_⟩
    · rw [List.length_drop]
      omega
    · unfold page Dispatcher.page Digest.lines
      rw [List.map_map]
      rfl
  source := rfl
  component := rfl
  routingKey := rfl

/-- An alarm that has been made keeps to what it was made of. -/
theorem eq_of_ofPolicy {policy : Policy} {dispatcher : Dispatcher} {watchdog : Watchdog} {a : Alarm}
    {made : Effects} (h : ofPolicy policy dispatcher watchdog = .ok (a, made)) :
    a.policy = policy ∧ a.dispatcher = dispatcher := by
  unfold ofPolicy at h
  split at h
  · cases h
    exact ⟨rfl, rfl⟩
  · cases h

/-! ### What follows -/

/-- Steps that are no calls leave the store. -/
theorem store_without_calls (a : Alarm) (ops : List Op) {later : List Op}
    (h : ∀ op ∈ later, op.isCall = false) : (a.after (ops ++ later)).store = (a.after ops).store := by
  induction later using List.reverseRecOn with
  | nil => rw [List.append_nil]
  | append_singleton later op ih =>
      have hop := h op (by simp)
      rw [← List.append_assoc, after_concat, (a.step_elsewhere _ hop).1]
      exact ih fun op' hop' => h op' (List.mem_append_left _ hop')

/-- A call that waits for a page is told the first end of its sending. -/
theorem resolved_awaited {a : Alarm} {ops : List Op} {x : Sending} {n : Nat}
    (hx : x ∈ (a.after ops).sending) (hn : x.sender = .alarm n) (later : List Op) :
    (Reply.record (.sending x.number)).resolved (a.answers (ops ++ later)) =
      .record (awaited x.number n (later.findSome? (Op.ends? x.number))) := by
  have hfind := (answer_of_sending hx later).1
  rw [hn] at hfind
  cases hend : later.findSome? (Op.ends? x.number) with
  | none =>
      rw [hend] at hfind
      unfold Reply.resolved
      dsimp only
      rw [hfind]
      rfl
  | some result =>
      rw [hend] at hfind
      rw [awaited_some]
      exact resolved_of_answer hfind

/-- A transport is handed the page when the store is empty, and what it decides at once is returned at
once. -/
theorem record_on_line {a : Alarm} {s : State} (hs : Numbered s) {now : Instant} {p : LoggingPayload}
    (hc : a.Crossing s now p (a.step s (.record (some now) ⟨some p⟩))) {τ : Type} (t : Transport τ)
    (x : τ) :
    let batch := a.inWindow now (s.store.failures ++ [p.toFailure now])
    let out := Line.record a t (some now) ⟨some p⟩ ⟨s, x⟩
    out.2.2.pages = [a.page batch] ∧ out.1.state.store = {} ∧
      out.2.1 =
        awaited s.nextSending batch.length (t.deliver x s.nextSending (a.page batch)).1.result? := by
  intro batch out
  have hpages := (Line.settle_spec t ⟨s, x⟩ (a.step s (.record (some now) ⟨some p⟩)).1
    (a.step s (.record (some now) ⟨some p⟩)).2.2).2
  rw [hc.pages] at hpages
  have hstore := (Line.settle_sameWindow t ⟨s, x⟩ (a.step s (.record (some now) ⟨some p⟩)).1
    (a.step s (.record (some now) ⟨some p⟩)).2.2).store
  rw [hc.store] at hstore
  refine ⟨hpages, hstore, ?_⟩
  cases hdelivery : (t.deliver x s.nextSending (a.page batch)).1 with
  | done result =>
      rw [Delivery.result?, awaited_some]
      exact Line.record_done (l := ⟨s, x⟩) hs hc hdelivery
  | held => exact (Line.record_held (l := ⟨s, x⟩) hc hdelivery).1

/-! ### The whole -/

/-- **What a call to record a failure comes to.** Below a positive threshold the failures that count stay
in the store, and nothing is sent. Otherwise one page is handed over that announces them, with the store
already empty; the call returns their number when the page has been sent, and the error if it could not
be sent, and until another call the store stays empty. With a window of some length, the failure that was
recorded is the last of those that count, unless the clock shows the first instant. -/
theorem record_outcome {policy : Policy} {dispatcher : Dispatcher} {watchdog : Watchdog} {a : Alarm}
    {made : Effects} (h : ofPolicy policy dispatcher watchdog = .ok (a, made)) (ops : List Op)
    (hopen : (a.after ops).poisoned = false) (p : LoggingPayload) (now : Instant) :
    let s := a.after ops
    let batch := counted policy now s.store.failures p
    let op : Op := .record (some now) ⟨some p⟩
    let r := a.step s op
    (0 < policy.threshold ∧ (batch.length : Int) < policy.threshold →
      r.2.2.pages = [] ∧ r.1.sending = s.sending ∧ r.1.store.failures = batch ∧
      r.2.1 = .record (.finished (.ok (.recorded batch.length)))) ∧
    (¬ (0 < policy.threshold ∧ (batch.length : Int) < policy.threshold) →
      ∃ page, Announces policy dispatcher batch page ∧
        r.2.2.pages = [(s.nextSending, page)] ∧ r.1.store = {} ∧
        r.2.1 = .record (.sending s.nextSending) ∧
        (∀ later : List Op,
          r.2.1.resolved (a.answers (ops ++ op :: later)) =
            .record (awaited s.nextSending batch.length
              (later.findSome? (Op.ends? s.nextSending))) ∧
          ((∀ op ∈ later, op.isCall = false) → (a.after (ops ++ op :: later)).store = {})) ∧
        ∀ (τ : Type) (t : Transport τ) (x : τ),
          let out := Line.record a t (some now) ⟨some p⟩ ⟨s, x⟩
          out.2.2.pages = [page] ∧ out.1.state.store = {} ∧
          out.2.1 = awaited s.nextSending batch.length
            (t.deliver x s.nextSending page).1.result?) ∧
    (1 ≤ policy.windowSeconds →
      (batch.getLast? = some (p.toFailure now) ↔ Instant.min < now)) := by
  obtain ⟨rfl, rfl⟩ := eq_of_ofPolicy h
  intro s batch op r
  have hbatch : batch = a.inWindow now (s.store.failures ++ [p.toFailure now]) :=
    a.counted_eq_inWindow now s.store.failures p
  have hreached := isReached_iff_not_below a.policy batch.length
  refine ⟨?_, ?_, ?_⟩
  · intro hlow
    have hnot : a.policy.isReached batch.length = false :=
      Bool.eq_false_iff.mpr fun hr => hreached.mp hr hlow
    obtain ⟨hreply, hstore⟩ := record_below hopen (hbatch ▸ hnot)
    have hr : r.2.1 = .record (.finished (.ok (.recorded batch.length))) := by
      rw [hbatch]
      exact congrArg Reply.record hreply
    have hquiet : r.2.2.pages = [] ∧ r.1.sending = s.sending :=
      call_quiet rfl (hr ▸ not_crosses_finished _)
    exact ⟨hquiet.1, hquiet.2, hstore.trans hbatch.symm, hr⟩
  · intro hhigh
    have hc : a.Crossing s now p r := record_reached hopen (hbatch ▸ hreached.mpr hhigh)
    refine ⟨a.page batch, a.announces_page batch, ?_, hc.store, hc.reply, ?_, ?_⟩
    · rw [hbatch]
      exact hc.pages
    · intro later
      have hafter : a.after (ops ++ [op]) = r.1 := a.after_concat ops op
      have hlater : ops ++ op :: later = (ops ++ [op]) ++ later := List.append_cons ops op later
      -- The page is under way from here on, until its sending ends.
      have hx : ⟨s.nextSending, .alarm batch.length, a.page batch⟩ ∈ (a.after (ops ++ [op])).sending := by
        rw [hafter, hc.sending, hbatch]
        exact List.mem_append_right _ (List.mem_singleton.mpr rfl)
      rw [hlater, hc.reply]
      refine ⟨resolved_awaited hx rfl later, fun hcalls => ?_⟩
      rw [a.store_without_calls _ hcalls, hafter]
      exact hc.store
    · intro τ t x
      rw [hbatch]
      exact record_on_line (a.numbered_after ops) hc t x
  · intro hw
    exact getLast_counted hw now s.store.failures p

/-- The second failure within a minute is announced together with the first one, and its call is told that
the page was refused. -/
theorem record_outcome_of_second_failure :
    let a := perMinute 2
    let ops : List Op := [.record (some (second 0)) ⟨some {}⟩]
    let op : Op := .record (some (second 30)) ⟨some {}⟩
    let r := a.step (a.after ops) op
    (∃ made, ofPolicy a.policy a.dispatcher .off = .ok (a, made)) ∧ (a.after ops).poisoned = false ∧
    ∃ page, Announces a.policy a.dispatcher
        [LoggingPayload.toFailure {} (second 0), LoggingPayload.toFailure {} (second 30)] page ∧
      r.2.2.pages = [(0, page)] ∧ r.1.store = {} ∧
      r.2.1.resolved (a.answers (ops ++ op :: [.complete 0 (.error (.http "refused"))])) =
        .record (.finished (.error (.dispatch (.http "refused")))) := by
  intro a ops op r
  obtain ⟨made, hmade⟩ : ∃ made, ofPolicy a.policy a.dispatcher .off = .ok (a, made) := ⟨_, rfl⟩
  have hopen : (a.after ops).poisoned = false := by decide
  have hbatch : counted a.policy (second 30) (a.after ops).store.failures {} =
      [LoggingPayload.toFailure {} (second 0), LoggingPayload.toFailure {} (second 30)] := by
    decide
  -- Thirty seconds apart, both are within the minute: the second call crosses.
  obtain ⟨-, hpaged, -⟩ := record_outcome hmade ops hopen {} (second 30)
  obtain ⟨page, hannounces, hpages, hstore, -, hlater, -⟩ := hpaged (by decide)
  have hreturn := (hlater [.complete 0 (.error (.http "refused"))]).1
  have hnumber : (a.after ops).nextSending = 0 := by decide
  rw [hbatch] at hannounces hreturn
  rw [hnumber] at hpages hreturn
  dsimp only [r, op]
  exact ⟨⟨made, hmade⟩, hopen, page, hannounces, hpages, hstore, hreturn⟩

end Alarm
end FailureAlarm
