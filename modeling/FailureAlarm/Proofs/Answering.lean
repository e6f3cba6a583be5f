import FailureAlarm.Proofs.Lifecycle
import FailureAlarm.Proofs.Trail

/-!
# Who reports a failure is answered

One who reports a failure to the service is answered what the call of `record` returns. If the call
crosses the threshold, that may be late, as it waits for the end of the sending of its page. In the
meantime anything may happen to the service: other requests come in, other sendings end, time passes, the
clock fails (`Happening`). The answer comes with the first thing to happen that is the end of that sending
(`endOf?`).

* `heard_of_sending`: until that end comes the sending is under way, and with it comes the verdict over
  the alarm;
* `returned_spec` lists what a call for a report can return, in terms of its page and of what happens;
* `response_eq`: the answer is what the call returned, as a response.
-/

namespace FailureAlarm

open Alarm Http

/-! ### One page is brought to the transport -/

namespace Line

variable {τ : Type} (t : Transport τ) (l : Line τ) {state : FailureAlarm.State} {effects : Effects}
  {x : Sending}

/-- A page whose end is known at once is answered at once. -/
theorem settle_done (hstate : Numbered state) (hx : x ∈ state.sending)
    (hpages : effects.pages = [(x.number, x.page)]) {result : Except PagingError Unit}
    (h : (t.deliver l.transport x.number x.page).1 = .done result) :
    (l.settle t state effects).2.answers = [(x.number, State.answer result x.sender)] := by
  have hcomplete : (state.complete x.number result).2.1 = some (State.answer result x.sender) := by
    unfold State.complete
    rw [find_number hstate hx]
  unfold settle
  rw [hpages]
  unfold deliver
  generalize t.deliver l.transport x.number x.page = r at h ⊢
  obtain ⟨delivery, log, transport⟩ := r
  cases h
  show _ ++ ((_ ++ (Option.map _ (state.complete x.number result).2.1).toList) ++ _) = _
  rw [hcomplete]
  rfl

/-- A page that is held leaves the state as the step did. -/
theorem settle_held (state : FailureAlarm.State) (hpages : effects.pages = [(x.number, x.page)])
    (h : (t.deliver l.transport x.number x.page).1 = .held) :
    (l.settle t state effects).1.state = state ∧ (l.settle t state effects).2.answers = [] := by
  unfold settle
  rw [hpages]
  unfold deliver
  generalize t.deliver l.transport x.number x.page = r at h ⊢
  obtain ⟨delivery, log, transport⟩ := r
  cases h
  exact ⟨rfl, rfl⟩

variable {t l} {a : Alarm} {now : Instant} {n : Notification} {p : LoggingPayload}

/-- A call returns what the answers tell by the time when its page has been brought to the
transport. -/
theorem reply_record (a : Alarm) (t : Transport τ) (l : Line τ) (reading : Reading) (n : Notification) :
    Reply.record (l.record a t reading n).2.1 =
      (a.step l.state (.record reading n)).2.1.resolved
        (l.settle t (a.step l.state (.record reading n)).1
          (a.step l.state (.record reading n)).2.2).2.answers := a.progress_record t l reading n

/-- A call that does not cross the threshold returns what its step comes to; nothing is brought to the
transport for which it would wait. -/
theorem record_of_not_crosses
    (h : ¬ (a.step l.state (.record (some now) n)).2.1.Crosses) :
    (l.record a t (some now) n).2.1 = (a.record (some now) n l.state).2.1 := by
  have hreply := reply_record a t l (some now) n
  rw [resolved_of_not_crosses h] at hreply
  exact Reply.record.inj hreply

/-- The sending that a call starts by crossing the threshold. -/
def raising (a : Alarm) (now : Instant) (p : LoggingPayload) (s : FailureAlarm.State) : Sending :=
  let batch := a.inWindow now (s.store.failures ++ [p.toFailure now])
  ⟨s.nextSending, .alarm batch.length, a.page batch⟩

/-- The sending of its page begins with the crossing. -/
theorem raising_mem (hc : a.Crossing l.state now p (a.step l.state (.record (some now) ⟨some p⟩))) :
    raising a now p l.state ∈ (a.step l.state (.record (some now) ⟨some p⟩)).1.sending := by
  rw [hc.sending]
  exact List.mem_append_right _ (List.mem_singleton.mpr rfl)

/-- If the sending comes to its end at once, the call returns the verdict at once. -/
theorem record_done (hl : Numbered l.state)
    (hc : a.Crossing l.state now p (a.step l.state (.record (some now) ⟨some p⟩)))
    {result : Except PagingError Unit}
    (h : (t.deliver l.transport l.state.nextSending (raising a now p l.state).page).1 = .done result) :
    (l.record a t (some now) ⟨some p⟩).2.1 = .finished (verdict
      (a.inWindow now (l.state.store.failures ++ [p.toFailure now])).length result) := by
  have hanswers := settle_done t l (a.numbered_step hl _) (raising_mem hc) hc.pages h
  have hfind : (l.settle t (a.step l.state (.record (some now) ⟨some p⟩)).1
      (a.step l.state (.record (some now) ⟨some p⟩)).2.2).2.answers.find?
        (·.1 = l.state.nextSending) = some (l.state.nextSending, State.answer result (.alarm
          (a.inWindow now (l.state.store.failures ++ [p.toFailure now])).length)) := by
    rw [hanswers]
    exact List.find?_cons_of_pos (decide_eq_true rfl)
  have hreply := reply_record a t l (some now) ⟨some p⟩
  rw [hc.reply, resolved_of_answer hfind] at hreply
  exact Reply.record.inj hreply

/-- If the page is held, the call waits, and the state is the one after the crossing. -/
theorem record_held
    (hc : a.Crossing l.state now p (a.step l.state (.record (some now) ⟨some p⟩)))
    (h : (t.deliver l.transport l.state.nextSending (raising a now p l.state).page).1 = .held) :
    (l.record a t (some now) ⟨some p⟩).2.1 = .sending l.state.nextSending ∧
      (l.record a t (some now) ⟨some p⟩).1.state =
        (a.step l.state (.record (some now) ⟨some p⟩)).1 := by
  have hpages : (a.step l.state (.record (some now) ⟨some p⟩)).2.2.pages =
    [((raising a now p l.state).number, (raising a now p l.state).page)] := hc.pages
  obtain ⟨hstate, hanswers⟩ :=
    settle_held t l (a.step l.state (.record (some now) ⟨some p⟩)).1 hpages h
  have hreply := reply_record a t l (some now) ⟨some p⟩
  rw [hc.reply, hanswers] at hreply
  exact ⟨Reply.record.inj hreply, hstate⟩

end Line

namespace Service

variable {τ : Type} {s : Service} {t : Transport τ} {st : State τ}

/-! ### What happens to a service -/

/-- Something that happens to a service. -/
inductive Happening where
  | act (act : Act)
  /-- The clock fails while the failures are counted. -/
  | crash

/-- The result with which the sending with this number ends, if this is its end. -/
def Happening.ends? (number : Nat) : Happening → Option (Except PagingError Unit)
  | .act (.complete k result) => if k = number then some result else none
  | _ => none

def happen (s : Service) (t : Transport τ) (st : State τ) :
    Happening → State τ × Option Response × Traffic
  | .act act => s.act t st act
  | .crash =>
    let (line, _, traffic) := st.line.retained s.alarm t none
    ({ st with line }, none, traffic)

/-- The state that a service comes to, from its start with the transport at `x`. -/
def reached (s : Service) (t : Transport τ) (x : τ) (hs : List Happening) : State τ :=
  hs.foldl (fun st h => (s.happen t st h).1) { line := ⟨{}, x⟩ }

/-- To forget requests is to release them one after the other. -/
theorem foldl_forget_after (s : Service) (t : Transport τ) (xs : List Remembered) (st : State τ) :
    (xs.foldl (fun st r => forget r.id st) st).line =
      st.line.after s.alarm t (xs.map fun r => .release r.id) := by
  induction xs generalizing st with
  | nil => rfl
  | cons r xs ih => exact ih (forget r.id st)

/-- An HTTP request lets the alarm take some steps, and ends no sending by them. -/
theorem handle_after (s : Service) (t : Transport τ) (now : Instant) (fresh : RequestId)
    (r : Http.Request) (st : State τ) :
    ∃ ops, (s.handle t now fresh r st).1.line = st.line.after s.alarm t ops ∧
      ∀ op ∈ ops, op.isEnd = false := by
  have hquiet : ∃ ops, st.line = st.line.after s.alarm t ops ∧ ∀ op ∈ ops, op.isEnd = false :=
    ⟨[], rfl, fun op hop => by cases hop⟩
  unfold handle
  -- The operations are those of the handler, and they begin with none: many requests are answered without
  -- any.
  cases Route.ofPath? r.path with
  | none => exact hquiet
  | some route =>
      dsimp only
      split
      · exact hquiet
      · cases route with
        | health => exact ⟨[.retained (some now)], rfl, by simp [Op.isEnd]⟩
        | metrics => exact hquiet
        | failures =>
            dsimp only
            unfold recordFailure
            cases readBody Notification.decoder r with
            | error response => exact hquiet
            | ok n => exact ⟨[.record (some now) n], rfl, by simp [Op.isEnd]⟩
        | requests =>
            dsimp only
            unfold startRequest
            cases readBody StartNotice.decoder r with
            | error response => exact hquiet
            | ok notice =>
                obtain ⟨k, hk⟩ := st.line.watch_after s.alarm t
                  ⟨fresh, notice.callType, notice.model, now⟩
                refine ⟨_, hk, ?_⟩
                simp [Op.isEnd]
        | complete part =>
            dsimp only
            unfold completeRequest
            split
            · exact hquiet
            · next id _ =>
                split
                · exact ⟨[.release id], rfl, by simp [Op.isEnd]⟩
                · exact hquiet

/-- The passing of time is a run of operations, none of which ends a sending. -/
theorem pass_after (s : Service) (t : Transport τ) (d : Duration) (st : State τ) :
    ∃ ops, (s.pass t d st).1.line = st.line.after s.alarm t ops ∧ ∀ op ∈ ops, op.isEnd = false := by
  obtain ⟨k, hk⟩ := st.line.pass_after s.alarm t d
  rw [pass_state, foldl_forget_after s t, hk, ← Line.after_append]
  refine ⟨_, rfl, ?_⟩
  simp only [List.mem_append, List.mem_cons, List.mem_replicate, List.mem_map]
  rintro op ((rfl | ⟨-, rfl⟩) | ⟨x, -, rfl⟩) <;> rfl

/-- Only an operation that ends a sending ends one. -/
theorem ends_of_not_isEnd {op : Op} (h : op.isEnd = false) (number : Nat) : op.ends? number = none := by
  cases op <;> first | rfl | cases h

/-- Whatever happens lets the alarm take some steps, and ends no other sending by them than it says. -/
theorem happen_after (s : Service) (t : Transport τ) (st : State τ) (h : Happening) :
    ∃ ops, (s.happen t st h).1.line = st.line.after s.alarm t ops ∧
      ∀ number, h.ends? number = none → ∀ op ∈ ops, op.ends? number = none := by
  cases h with
  | crash => exact ⟨[.retained none], rfl, by simp [Op.ends?]⟩
  | act act =>
      cases act with
      | ask now fresh r =>
          obtain ⟨ops, hline, hops⟩ := s.handle_after t now fresh r st
          exact ⟨ops, hline, fun number _ op hop => ends_of_not_isEnd (hops op hop) number⟩
      | pass d =>
          obtain ⟨ops, hline, hops⟩ := s.pass_after t d st
          exact ⟨ops, hline, fun number _ op hop => ends_of_not_isEnd (hops op hop) number⟩
      | complete number result =>
          refine ⟨_, st.line.complete_after s.alarm t number result, fun k hk op hop => ?_⟩
          rw [List.mem_singleton.mp hop]
          exact hk

/-- The sendings under way in a state that a service comes to can be told apart. -/
theorem numbered_reached (s : Service) (t : Transport τ) (x : τ) (hs : List Happening) :
    Numbered (s.reached t x hs).line.state := by
  induction hs using List.reverseRecOn with
  | nil => exact ⟨List.nodup_nil, fun x hx => by cases hx⟩
  | append_singleton hs h ih =>
      unfold reached at ih ⊢
      rw [List.foldl_append, List.foldl_cons, List.foldl_nil]
      obtain ⟨ops, hline, -⟩ := s.happen_after t (s.reached t x hs) h
      show Numbered (s.happen t (s.reached t x hs) h).1.line.state
      rw [hline]
      exact (Line.sending_after s.alarm t ops ih).1

/-! ### Answers that come late -/

/-- What comes of the first thing to happen that is the end of the sending with this number. -/
def endOf? (s : Service) (t : Transport τ) (number : Nat) :
    State τ → List Happening → Option (State τ × Option Response × Traffic)
  | _, [] => none
  | st, h :: later =>
    if (h.ends? number).isSome then some (s.happen t st h)
    else endOf? s t number (s.happen t st h).1 later

/-- What a call of `record` is told, if its sending ends. -/
def heard? (number : Nat) (r : State τ × Option Response × Traffic) : Option (Except AlarmError Outcome) :=
  match r.2.2.answerTo? number with
  | some (.alarm result) => some result
  | _ => none

/-- The answer to the result of a call of `record`. -/
def responseTo : Except AlarmError Outcome → Response
  | .ok outcome => .json 200 outcome.toJson.text
  | .error e => errorResponse (status e) e.message

/-- A call that has returned is answered at once. -/
theorem recorded_finished (result : Except AlarmError Outcome) :
    (recorded (.finished result)).1 = some (responseTo result) := by
  cases result <;> rfl

/-- Who is answered does not depend on what is logged. -/
theorem answerTo_append_log (traffic : Traffic) (log : List LogLine) (number : Nat) :
    (traffic ++ ({ log } : Traffic)).answerTo? number = traffic.answerTo? number := by
  unfold Traffic.answerTo?
  show ((traffic.answers ++ []).find? _).map _ = _
  rw [List.append_nil]

/-- When a sending ends, the one who waits for it is answered by what is heard of it. -/
theorem response_complete (number : Nat) (result : Except PagingError Unit) (st : State τ) :
    (complete number result st).2.1 = (heard? number (complete number result st)).map responseTo := by
  unfold complete heard?
  dsimp only
  rw [answerTo_append_log]
  cases (st.line.complete number result).2.answerTo? number with
  | none => rfl
  | some answer =>
      cases answer with
      | alarm result => exact recorded_finished result
      | _ => rfl

/-- The end of the sending of an alarm is told as the verdict over it; nobody waits for other
sendings. -/
theorem heard_complete (number : Nat) (result : Except PagingError Unit) (st : State τ) :
    heard? number (complete number result st) =
      (st.line.state.sending.find? (·.number = number)).bind fun x =>
        match x.sender with
        | .alarm n => some (verdict n result)
        | _ => none := by
  have hanswers : (st.line.complete number result).2.answers =
      ((st.line.state.sending.find? (·.number = number)).map fun x =>
        (number, State.answer result x.sender)).toList := by
    unfold Line.complete State.complete
    cases st.line.state.sending.find? (·.number = number) <;> rfl
  unfold heard? complete
  dsimp only
  rw [answerTo_append_log]
  unfold Traffic.answerTo?
  rw [hanswers]
  cases st.line.state.sending.find? (·.number = number) with
  | none => rfl
  | some x =>
      obtain ⟨_, sender, _⟩ := x
      cases sender with
      | alarm n => cases result <;> simp [State.answer, verdict]
      | _ => simp [State.answer]

theorem eq_complete_of_ends {number : Nat} {result : Except PagingError Unit} {h : Happening}
    (hends : h.ends? number = some result) : h = .act (.complete number result) := by
  unfold Happening.ends? at hends
  split at hends
  · split at hends
    · next hnumber =>
        cases hends
        rw [hnumber]
    · cases hends
  · cases hends

/-- It is the end of that sending, in whatever state it comes. -/
theorem exists_of_endOf {number : Nat} {later : List Happening} {st : State τ}
    {r : State τ × Option Response × Traffic} (h : s.endOf? t number st later = some r) :
    ∃ result before, r = complete number result before := by
  induction later generalizing st with
  | nil => cases h
  | cons act later ih =>
      unfold endOf? at h
      split at h
      · next hends =>
          obtain ⟨result, hresult⟩ := Option.isSome_iff_exists.mp hends
          cases eq_complete_of_ends hresult
          cases h
          exact ⟨result, st, rfl⟩
      · exact ih h

/-- The sending that a call waits for comes to its end, if ever, with the result that its caller is
told. The induction is on what happens; until the end comes, the sending is under way. -/
theorem heard_of_sending {x : Sending} {n : Nat} (hx : x.sender = .alarm n) {later : List Happening}
    {st : State τ} (hst : Numbered st.line.state) (hmem : x ∈ st.line.state.sending) :
    (s.endOf? t x.number st later).bind (heard? x.number) =
      (later.findSome? (·.ends? x.number)).map (verdict n) := by
  induction later generalizing st with
  | nil => rfl
  | cons h later ih =>
      unfold endOf?
      rw [List.findSome?_cons]
      cases hends : h.ends? x.number with
      | none =>
          obtain ⟨ops, hline, hops⟩ := s.happen_after t st h
          obtain ⟨hnumbered, hkept⟩ := Line.sending_after s.alarm t ops hst
          rw [← hline] at hnumbered hkept
          exact ih hnumbered (hkept x hmem (hops x.number hends))
      | some result =>
          cases eq_complete_of_ends hends
          show heard? x.number (complete x.number result st) = some (verdict n result)
          rw [heard_complete, find_number hst hmem, Option.bind_some, hx]

/-! ### A report of a failure -/

/-- The HTTP request reports a failure, and its body has been read. -/
structure Reports (r : Http.Request) (n : Notification) : Prop where
  method : r.method = "POST"
  route : Route.ofPath? r.path = some .failures
  body : readBody Notification.decoder r = .ok n

/-- The answer to an HTTP request, if there is one by the time when other things have happened: it is
given at once, or with the end of the sending that the request waits for. -/
def response? (s : Service) (t : Transport τ) (now : Instant) (fresh : RequestId) (r : Http.Request)
    (st : State τ) (later : List Happening) : Option Response :=
  let asked := s.handle t now fresh r st
  asked.2.1.or ((s.endOf? t st.line.state.nextSending asked.1 later).bind (·.2.1))

/-- What the call of `record` returns that is made for a report, if it does so by the time when other
things have happened. -/
def returned? (s : Service) (t : Transport τ) (now : Instant) (n : Notification) (st : State τ)
    (later : List Happening) : Option (Except AlarmError Outcome) :=
  let called := st.line.record s.alarm t (some now) n
  match called.2.1 with
  | .finished result => some result
  | .sending number => (s.endOf? t number { st with line := called.1 } later).bind (heard? number)
  | .crashed => none

/-- How the sending of the next page ends: the transport says so at once, or it is seen later. -/
def fate? (t : Transport τ) (st : State τ) (page : Page) (later : List Happening) :
    Option (Except PagingError Unit) :=
  match (t.deliver st.line.transport st.line.state.nextSending page).1 with
  | .done result => some result
  | .held => later.findSome? (·.ends? st.line.state.nextSending)

/-- **The report of a failure** is a call of `record`, with the clock as it is, and the answer is made
from what the call comes to. -/
theorem handle_report {r : Http.Request} {n : Notification} (h : Reports r n) (s : Service)
    (t : Transport τ) (now : Instant) (fresh : RequestId) (st : State τ) :
    s.handle t now fresh r st =
      let called := st.line.record s.alarm t (some now) n
      ({ st with line := called.1 }, (recorded called.2.1).1,
        called.2.2 ++ { log := (recorded called.2.1).2 }) := by
  unfold handle
  rw [h.route]
  dsimp only
  rw [if_neg (by rw [h.method]; decide), if_neg (by rw [h.method]; decide)]
  unfold recordFailure
  rw [h.body]

/-- What a call of `record` for a report returns, by the time when other things have happened. -/
inductive Reported (s : Service) (t : Transport τ) (now : Instant) (st : State τ)
    (later : List Happening) : Notification → Option (Except AlarmError Outcome) → Prop
  | missing : Reported s t now st later ⟨none⟩ (some (.error .missingPayload))
  | locked {p} : ¬ (s.alarm.step st.line.state (.record (some now) ⟨some p⟩)).2.1.Crosses →
      Reported s t now st later ⟨some p⟩ (some (.error .storeLocked))
  | below {p k} : ¬ (s.alarm.step st.line.state (.record (some now) ⟨some p⟩)).2.1.Crosses →
      Reported s t now st later ⟨some p⟩ (some (.ok (.recorded k)))
  | crossed {p k} : s.alarm.Crossing st.line.state now p
        (s.alarm.step st.line.state (.record (some now) ⟨some p⟩)) →
      Reported s t now st later ⟨some p⟩
        ((fate? t st (Line.raising s.alarm now p st.line.state).page later).map (verdict k))

/-- The call that crosses the threshold returns what becomes of its page. -/
theorem returned_of_crossing {now : Instant} {p : LoggingPayload} (hst : Numbered st.line.state)
    (hc : s.alarm.Crossing st.line.state now p
      (s.alarm.step st.line.state (.record (some now) ⟨some p⟩))) (later : List Happening) :
    s.returned? t now ⟨some p⟩ st later =
      (fate? t st (Line.raising s.alarm now p st.line.state).page later).map (verdict
        (s.alarm.inWindow now (st.line.state.store.failures ++ [p.toFailure now])).length) := by
  unfold returned? fate?
  dsimp only
  cases hdelivery : (t.deliver st.line.transport st.line.state.nextSending
      (Line.raising s.alarm now p st.line.state).page).1 with
  | done result =>
      rw [Line.record_done hst hc hdelivery]
      rfl
  | held =>
      obtain ⟨hprogress, hstate⟩ := Line.record_held hc hdelivery
      rw [hprogress]
      -- The page is held, so what is returned is heard of it later, from the state after the crossing.
      let waiting : State τ :=
        { st with line := (st.line.record s.alarm t (some now) ⟨some p⟩).1 }
      have hwaiting : waiting.line.state =
        (s.alarm.step st.line.state (.record (some now) ⟨some p⟩)).1 := hstate
      have hnumbered : Numbered waiting.line.state := by
        rw [hwaiting]
        exact s.alarm.numbered_step hst _
      have hmem : Line.raising s.alarm now p st.line.state ∈ waiting.line.state.sending := by
        rw [hwaiting]
        exact Line.raising_mem hc
      exact heard_of_sending rfl hnumbered hmem

/-- A call that does not cross the threshold returns at once. -/
theorem finished_of_not_crosses (s : Service) (t : Transport τ) (now : Instant) (n : Notification)
    (st : State τ) (later : List Happening)
    (hcrosses : ¬ (s.alarm.step st.line.state (.record (some now) n)).2.1.Crosses) :
    ∃ result, (st.line.record s.alarm t (some now) n).2.1 = .finished result ∧
      Reported s t now st later n (some result) := by
  have hspec := s.alarm.record_spec (some now) n st.line.state
  have hreply := hcrosses
  rw [step_record] at hreply
  rw [Line.record_of_not_crosses hcrosses]
  generalize s.alarm.record (some now) n st.line.state = r at hspec hreply ⊢
  cases hspec with
  | missing => exact ⟨_, rfl, .missing⟩
  | locked _ => exact ⟨_, rfl, .locked hcrosses⟩
  | below _ _ _ => exact ⟨_, rfl, .below hcrosses⟩
  | reached _ _ _ => exact absurd ⟨_, rfl⟩ hreply

/-- **What a call for a report returns.** -/
theorem returned_spec (s : Service) (t : Transport τ) (now : Instant) (n : Notification)
    {st : State τ} (hst : Numbered st.line.state) (later : List Happening) :
    Reported s t now st later n (s.returned? t now n st later) := by
  by_cases hcrosses : (s.alarm.step st.line.state (.record (some now) n)).2.1.Crosses
  · obtain ⟨now', p, hop, hc⟩ := crossing_of_crosses hcrosses
    cases hop
    rw [returned_of_crossing hst hc]
    exact .crossed hc
  · obtain ⟨result, hfinished, hreported⟩ := finished_of_not_crosses s t now n st later hcrosses
    unfold returned?
    dsimp only
    rw [hfinished]
    exact hreported

/-- A call for a report returns, or it waits for the next sending. -/
theorem progress_cases (s : Service) (t : Transport τ) (now : Instant) (n : Notification)
    {st : State τ} (hst : Numbered st.line.state) :
    (∃ result, (st.line.record s.alarm t (some now) n).2.1 = .finished result) ∨
      (st.line.record s.alarm t (some now) n).2.1 = .sending st.line.state.nextSending := by
  by_cases hcrosses : (s.alarm.step st.line.state (.record (some now) n)).2.1.Crosses
  · obtain ⟨now', p, hop, hc⟩ := crossing_of_crosses hcrosses
    cases hop
    cases hdelivery : (t.deliver st.line.transport st.line.state.nextSending
        (Line.raising s.alarm now p st.line.state).page).1 with
    | done result => exact .inl ⟨_, Line.record_done hst hc hdelivery⟩
    | held => exact .inr (Line.record_held hc hdelivery).1
  · obtain ⟨result, hfinished, -⟩ := finished_of_not_crosses s t now n st [] hcrosses
    exact .inl ⟨result, hfinished⟩

/-- **Who reports a failure is answered what the call of `record` returned.** -/
theorem response_eq {r : Http.Request} {n : Notification} (hr : Reports r n) (s : Service)
    (t : Transport τ) (now : Instant) (fresh : RequestId) {st : State τ}
    (hst : Numbered st.line.state) (later : List Happening) :
    s.response? t now fresh r st later = (s.returned? t now n st later).map responseTo := by
  unfold response? returned?
  rw [handle_report hr]
  dsimp only
  obtain ⟨result, hfinished⟩ | hwaits := progress_cases s t now n hst
  · rw [hfinished, recorded_finished]
    rfl
  · rw [hwaits]
    show (s.endOf? t _ _ later).bind _ = ((s.endOf? t _ _ later).bind _).map responseTo
    cases hend : s.endOf? t st.line.state.nextSending
        { st with line := (st.line.record s.alarm t (some now) n).1 } later with
    | none => rfl
    | some ended =>
        obtain ⟨result, before, rfl⟩ := exists_of_endOf hend
        exact response_complete _ result before

end Service
end FailureAlarm
