import FailureAlarm.Proofs.Answering
import FailureAlarm.Proofs.Answers
import FailureAlarm.Proofs.Window

/-!
# What the status of an answer says

The status of an answer tells the caller what has become of the request. With a status of 4xx nothing has
happened: neither has the state of the service changed, nor has the transport been handed a page. This is
shown handler by handler (`Honest`), and `honest_handle` puts them together.

One who reports a failure is told more. A status of 400 says that there was nothing to record, 502 that
the failure was recorded and its alarm could not be sent, and 200 that `record` returned an outcome.
`status_agrees_with_state` says so for every state that a service comes to.
-/

namespace FailureAlarm

open Alarm Http

/-- The answer says that the request was at fault. -/
def Http.Response.isClientError (r : Response) : Prop := 400 ≤ r.status ∧ r.status < 500

namespace Service

variable {τ : Type}

/-! ### Requests that are at fault -/

/-- If the answer says that the request was at fault, then nothing has happened. -/
def Honest (st : State τ) (r : State τ × Option Response × Traffic) : Prop :=
  ∀ response, r.2.1 = some response → response.isClientError → r.1 = st ∧ r.2.2.pages = []

theorem honest_of_quiet (st : State τ) (response : Option Response) : Honest st (st, response, {}) :=
  fun _ _ _ => ⟨rfl, rfl⟩

/-- There is nothing to be shown for other answers. -/
theorem honest_of_no_error {r : State τ × Option Response × Traffic}
    (h : ∀ response, r.2.1 = some response → ¬ response.isClientError) : Honest st r :=
  fun response hresponse herror => absurd herror (h response hresponse)

/-- To leave out the body does not change the status. -/
theorem honest_head {r : State τ × Option Response × Traffic} (h : Honest st r) (isHead : Prop)
    [Decidable isHead] :
    Honest st (r.1, if isHead then r.2.1.map Response.head else r.2.1, r.2.2) := by
  intro response hresponse herror
  by_cases hhead : isHead
  · rw [if_pos hhead] at hresponse
    obtain ⟨whole, hwhole, rfl⟩ := Option.map_eq_some_iff.mp hresponse
    exact h whole hwhole herror
  · rw [if_neg hhead] at hresponse
    exact h response hresponse herror

/-- A verdict over an alarm is no fault of the caller. -/
theorem not_isClientError_verdict (n : Nat) (result : Except PagingError Unit) :
    ¬ (responseTo (verdict n result)).isClientError := by
  unfold Response.isClientError
  cases result <;> simp [verdict, responseTo, errorResponse, status, Response.json]

/-- A report is turned away before anything has happened if it has no payload; every other of its answers
is about the service. -/
theorem honest_report {r : Http.Request} {n : Notification} (hr : Reports r n) (s : Service)
    (t : Transport τ) (now : Instant) (fresh : RequestId) {st : State τ}
    (hst : Numbered st.line.state) : Honest st (s.handle t now fresh r st) := by
  intro response hresponse herror
  -- An answer that is there at once is the answer when nothing happens afterwards.
  have hanswer : s.response? t now fresh r st [] = some response := by
    unfold response?
    dsimp only
    rw [hresponse]
    rfl
  rw [response_eq hr s t now fresh hst] at hanswer
  have hspec := s.returned_spec t now n hst []
  generalize s.returned? t now n st [] = result at hanswer hspec
  cases hspec with
  | missing =>
      rw [handle_report hr]
      exact ⟨rfl, rfl⟩
  -- From here on the status is not that of a client's fault.
  | locked _ =>
      cases hanswer
      exact absurd herror (by simp [Response.isClientError, responseTo, errorResponse, status,
        Response.json])
  | below _ =>
      cases hanswer
      exact absurd herror (by simp [Response.isClientError, responseTo, Response.json])
  | crossed _ =>
      obtain ⟨_, hverdict, rfl⟩ := Option.map_eq_some_iff.mp hanswer
      obtain ⟨result, -, rfl⟩ := Option.map_eq_some_iff.mp hverdict
      exact absurd herror (not_isClientError_verdict _ result)

/-- The service is at fault if its health cannot be told. -/
theorem honest_health (s : Service) (t : Transport τ) (now : Instant) (st : State τ) :
    Honest st (s.health t now st) := by
  refine honest_of_no_error fun response hresponse => ?_
  have hspec := s.alarm.retained_spec (some now) st.line.state
  unfold health Line.retained at hresponse
  generalize s.alarm.retained (some now) st.line.state = r at hspec hresponse
  cases hspec with
  | locked _ =>
      cases hresponse
      simp [Response.isClientError, errorResponse, status, Response.json]
  | counted _ _ =>
      cases hresponse
      simp [Response.isClientError, Response.json]

/-- A notice that cannot be read starts nothing, and one that can is answered 201. -/
theorem honest_startRequest (s : Service) (t : Transport τ) (now : Instant) (fresh : RequestId)
    (r : Http.Request) (st : State τ) : Honest st (s.startRequest t now fresh r st) := by
  unfold startRequest
  cases readBody StartNotice.decoder r with
  | error response => exact honest_of_quiet st _
  | ok notice =>
      refine honest_of_no_error fun response hresponse => ?_
      cases hresponse
      simp [Response.isClientError, Response.json]

/-- Who completes what is not in flight is told so, and nothing changes. -/
theorem honest_completeRequest (part : List Char) (st : State τ) :
    Honest st (completeRequest part st) := by
  unfold completeRequest
  split
  · exact honest_of_quiet st _
  · split
    · refine honest_of_no_error fun response hresponse => ?_
      cases hresponse
      simp [Response.isClientError]
    · exact honest_of_quiet st _

/-- A route that allows the method hands the request to its handler. -/
theorem handle_of_allowed {r : Http.Request} {route : Route} (hroute : Route.ofPath? r.path = some route)
    (hallows : route.allows r.method = true) (s : Service) (t : Transport τ) (now : Instant)
    (fresh : RequestId) (st : State τ) :
    s.handle t now fresh r st =
      let handled := match route with
        | .health => s.health t now st
        | .failures => s.recordFailure t now r st
        | .requests => s.startRequest t now fresh r st
        | .complete part => completeRequest part st
        | .metrics => (st, some (s.metrics st), {})
      (handled.1, if r.method = "HEAD" then handled.2.1.map Response.head else handled.2.1,
        handled.2.2) := by
  unfold handle
  rw [hroute]
  refine (if_neg (by simp [hallows])).trans ?_
  cases route <;> rfl

/-- **An HTTP request that is at fault changes nothing.** -/
theorem honest_handle (s : Service) (t : Transport τ) (now : Instant) (fresh : RequestId)
    (r : Http.Request) {st : State τ} (hst : Numbered st.line.state) :
    Honest st (s.handle t now fresh r st) := by
  cases hroute : Route.ofPath? r.path with
  | none =>
      unfold handle
      rw [hroute]
      exact honest_of_quiet st _
  | some route =>
      cases hallows : route.allows r.method with
      | false =>
          unfold handle
          rw [hroute]
          dsimp only
          rw [if_pos (by simp [hallows])]
          exact honest_of_quiet st _
      | true =>
          have hhandle := handle_of_allowed hroute hallows s t now fresh st
          cases route with
          | health =>
              rw [hhandle]
              exact honest_head (honest_health s t now st) _
          | requests =>
              rw [hhandle]
              exact honest_head (honest_startRequest s t now fresh r st) _
          | complete part =>
              rw [hhandle]
              exact honest_head (honest_completeRequest part st) _
          | metrics =>
              rw [hhandle]
              exact honest_of_quiet st _
          -- Only a report goes to `record`. One that cannot be read is answered before that.
          | failures =>
              cases hbody : readBody Notification.decoder r with
              | error response =>
                  rw [hhandle]
                  unfold recordFailure
                  rw [hbody]
                  exact honest_of_quiet st _
              | ok n =>
                  exact honest_report ⟨of_decide_eq_true hallows, hroute, hbody⟩ s t now fresh hst

/-- The answer that comes with the end of a sending is no answer to a request at fault. -/
theorem honest_response (s : Service) (t : Transport τ) (now : Instant) (fresh : RequestId)
    (r : Http.Request) {st : State τ} (hst : Numbered st.line.state) (later : List Happening)
    {response : Response} (hresponse : s.response? t now fresh r st later = some response)
    (herror : response.isClientError) :
    (s.handle t now fresh r st).1 = st ∧ (s.handle t now fresh r st).2.2.pages = [] := by
  unfold response? at hresponse
  dsimp only at hresponse
  cases hasked : (s.handle t now fresh r st).2.1 with
  | some atOnce =>
      rw [hasked] at hresponse
      cases hresponse
      exact honest_handle s t now fresh r hst response hasked herror
  | none =>
      rw [hasked, Option.none_or] at hresponse
      obtain ⟨_, hended, hanswer⟩ := Option.bind_eq_some_iff.mp hresponse
      obtain ⟨result, before, rfl⟩ := exists_of_endOf hended
      rw [response_complete, heard_complete] at hanswer
      obtain ⟨_, hverdict, rfl⟩ := Option.map_eq_some_iff.mp hanswer
      obtain ⟨x, -, hx⟩ := Option.bind_eq_some_iff.mp hverdict
      split at hx <;> cases hx
      exact absurd herror (not_isClientError_verdict _ result)

/-! ### The status of an answer -/

/-- A status tells the error: there is one error for 400. -/
theorem status_missing_iff (result : Except AlarmError Outcome) :
    (responseTo result).status = 400 ↔ result = .error .missingPayload := by
  rcases result with (_ | _ | _ | _) | _ <;> simp [responseTo, errorResponse, status, Response.json]

/-- There is one kind of error for 502. -/
theorem status_dispatch_iff (result : Except AlarmError Outcome) :
    (responseTo result).status = 502 ↔ ∃ e, result = .error (.dispatch e) := by
  rcases result with (_ | _ | _ | _) | _ <;> simp [responseTo, errorResponse, status, Response.json]

/-- A status of 200 stands for an outcome. -/
theorem status_ok_iff (result : Except AlarmError Outcome) :
    (responseTo result).status = 200 ↔ ∃ outcome, result = .ok outcome := by
  rcases result with (_ | _ | _ | _) | _ <;> simp [responseTo, errorResponse, status, Response.json]

/-- The call returns that there is no payload if there is none. -/
theorem returned_missing_iff (s : Service) (t : Transport τ) (now : Instant) (n : Notification)
    {st : State τ} (hst : Numbered st.line.state) (later : List Happening) :
    s.returned? t now n st later = some (.error .missingPayload) ↔ n.payload = none := by
  have hspec := s.returned_spec t now n hst later
  generalize s.returned? t now n st later = result at hspec
  cases hspec with
  | missing => simp
  | locked _ => simp
  | below _ => simp
  | crossed _ =>
      refine iff_of_false (fun h => ?_) (fun h => by cases h)
      obtain ⟨outcome, -, hverdict⟩ := Option.map_eq_some_iff.mp h
      cases outcome <;> cases hverdict

/-- The sending of the one page that a report hands over fails with this error. -/
def Fails (s : Service) (t : Transport τ) (now : Instant) (fresh : RequestId) (r : Http.Request)
    (st : State τ) (later : List Happening) (e : PagingError) : Prop :=
  ∃ page, (s.handle t now fresh r st).2.2.pages = [page] ∧ fate? t st page later = some (.error e)

/-- The pages that a report hands over are those of its call. -/
theorem pages_report {r : Http.Request} {n : Notification} (hr : Reports r n) (s : Service)
    (t : Transport τ) (now : Instant) (fresh : RequestId) (st : State τ) :
    (s.handle t now fresh r st).2.2.pages =
      (s.alarm.step st.line.state (.record (some now) n)).2.2.pages.map (·.2) := by
  rw [handle_report hr]
  exact (List.append_nil _).trans (Line.pages_step s.alarm t st.line (.record (some now) n))

/-- The call returns that its alarm could not be sent if it crosses the threshold and the sending
fails. -/
theorem returned_dispatch_iff {r : Http.Request} {n : Notification} (hr : Reports r n) (s : Service)
    (t : Transport τ) (now : Instant) (fresh : RequestId) {st : State τ}
    (hst : Numbered st.line.state) (later : List Happening) (e : PagingError) :
    s.returned? t now n st later = some (.error (.dispatch e)) ↔
      (s.alarm.step st.line.state (.record (some now) n)).2.1.Crosses ∧
        s.Fails t now fresh r st later e := by
  have hspec := s.returned_spec t now n hst later
  have hpages := pages_report hr s t now fresh st
  -- Only a call that crosses waits for a sending, and no other can return its error.
  generalize s.returned? t now n st later = result at hspec
  cases hspec with
  | missing => exact iff_of_false (fun h => by cases h) fun h => not_crosses_finished _ h.1
  | locked hcross => exact iff_of_false (fun h => by cases h) fun h => hcross h.1
  | below hcross => exact iff_of_false (fun h => by cases h) fun h => hcross h.1
  | @crossed p k hc =>
      rw [hc.pages] at hpages
      have hcross : (s.alarm.step st.line.state (.record (some now) ⟨some p⟩)).2.1.Crosses :=
        ⟨_, hc.reply⟩
      constructor
      · intro h
        -- The verdict over the alarm is this error, so the sending has ended, and with it.
        obtain ⟨result, hfate, hverdict⟩ := Option.map_eq_some_iff.mp h
        cases result with
        | ok _ => cases hverdict
        | error _ =>
            cases hverdict
            exact ⟨hcross, _, hpages, hfate⟩
      · rintro ⟨-, page, hpage, hfate⟩
        rw [hpages] at hpage
        cases hpage
        exact Option.map_eq_some_iff.mpr ⟨_, hfate, rfl⟩

/-- A report that crosses the threshold is counted, and the store is emptied, before its one page is
brought to the transport. -/
theorem crossing_report {r : Http.Request} {n : Notification} (hr : Reports r n) (s : Service)
    (t : Transport τ) (now : Instant) (fresh : RequestId) (st : State τ) :
    let recording := s.alarm.step st.line.state (.record (some now) n)
    let asked := s.handle t now fresh r st
    recording.2.1.Crosses →
      asked.2.2.pages.length = 1 ∧
      recording.1.store.failures = [] ∧
      recording.1.metrics.recorded = st.line.state.metrics.recorded + 1 ∧
      asked.1.line = (st.line.settle t recording.1 recording.2.2).1 := by
  intro recording asked hcrosses
  obtain ⟨now', p, hop, hc⟩ := crossing_of_crosses hcrosses
  cases hop
  have hpages : asked.2.2.pages = recording.2.2.pages.map (·.2) := pages_report hr s t now fresh st
  refine ⟨?_, ?_, ?_, ?_⟩
  · rw [hpages, hc.pages]
    rfl
  · rw [hc.store]
  -- The call has crossed, so it is one of the events that are counted.
  · have hshown : Event.shown? (.record (some now) ⟨some p⟩) recording.2.1 =
        some (.crossed now (p.toFailure now)) := by
      rw [hc.reply]
      rfl
    exact (happens_record hshown).recorded
  · show (s.handle t now fresh r st).1.line = _
    rw [handle_report hr]
    rfl

/-- **The status of an answer and the state of the service agree**, in every state that a service comes
to, whatever has happened and will happen. A request that is answered 4xx has changed nothing. One that
reports a failure is answered

* 400 if there is no payload, and then with the error that says so;
* 502 if the failure crosses the threshold and the sending of its one page fails, and then with the error
  of that sending in words. By then the failure has been counted and the store emptied;
* 200 if `record` returns an outcome, and then with its name and its number. -/
theorem status_agrees_with_state (s : Service) (t : Transport τ) (x : τ) (before later : List Happening)
    (now : Instant) (fresh : RequestId) (r : Http.Request) :
    let st := s.reached t x before
    let asked := s.handle t now fresh r st
    let answered (response : Response) : Prop := s.response? t now fresh r st later = some response
    (∀ response, answered response → response.isClientError →
        asked.1 = st ∧ asked.2.2.pages = []) ∧
      ∀ n, Reports r n →
        let recording := s.alarm.step st.line.state (.record (some now) n)
        ((∃ response, answered response ∧ response.status = 400) ↔ n.payload = none) ∧
        (n.payload = none → answered {
          status := 400
          contentType := some "application/json"
          body := "\x7b\"error\":\"standard_logging_object is required for failure-rate alerting\"\x7d" }) ∧
        ((∃ response, answered response ∧ response.status = 502) ↔
          recording.2.1.Crosses ∧ ∃ e, s.Fails t now fresh r st later e) ∧
        (recording.2.1.Crosses → ∀ e, s.Fails t now fresh r st later e →
          ∃ words response, e.Reads words ∧ answered response ∧
            Shows response 502 s!"Alert dispatch failed: {words}") ∧
        (recording.2.1.Crosses →
          asked.2.2.pages.length = 1 ∧
          recording.1.store.failures = [] ∧
          recording.1.metrics.recorded = st.line.state.metrics.recorded + 1 ∧
          asked.1.line = (st.line.settle t recording.1 recording.2.2).1) ∧
        ((∃ response, answered response ∧ response.status = 200) ↔
          ∃ outcome, s.returned? t now n st later = some (.ok outcome)) ∧
        ∀ outcome, s.returned? t now n st later = some (.ok outcome) →
          answered {
            status := 200
            contentType := some "application/json"
            body := match outcome with
              | .recorded n => s!"\x7b\"outcome\":\"recorded\",\"retained\":{n}\x7d"
              | .alerted n => s!"\x7b\"outcome\":\"alerted\",\"failures\":{n}\x7d" } := by
  intro st asked answered
  have hst : Numbered st.line.state := s.numbered_reached t x before
  refine ⟨fun response h => s.honest_response t now fresh r hst later h, ?_⟩
  intro n hr recording
  -- What is answered is what `record` returns, put into words, so every part is about that return.
  have hanswered (response : Response) : answered response ↔
      ∃ result, s.returned? t now n st later = some result ∧ responseTo result = response := by
    show s.response? t now fresh r st later = some response ↔ _
    rw [response_eq hr s t now fresh hst later]
    exact Option.map_eq_some_iff
  -- A status is seen exactly when a result that has it is returned.
  have hstatus (code : Nat) : (∃ response, answered response ∧ response.status = code) ↔
      ∃ result, s.returned? t now n st later = some result ∧ (responseTo result).status = code := by
    simp only [hanswered]
    constructor
    · rintro ⟨_, ⟨result, hresult, rfl⟩, hcode⟩
      exact ⟨result, hresult, hcode⟩
    · rintro ⟨result, hresult, hcode⟩
      exact ⟨_, ⟨result, hresult, rfl⟩, hcode⟩
  have hmissing := s.returned_missing_iff t now n hst later
  have hdispatch := returned_dispatch_iff hr s t now fresh hst later
  refine ⟨?_, ?_, ?_, ?_, crossing_report hr s t now fresh st, ?_, ?_⟩
  · rw [hstatus, ← hmissing]
    simp only [status_missing_iff]
    exact ⟨fun ⟨_, h, heq⟩ => heq ▸ h, fun h => ⟨_, h, rfl⟩⟩
  · intro hpayload
    exact (hanswered _).mpr ⟨_, hmissing.mpr hpayload, errorResponse_missingPayload⟩
  · rw [hstatus]
    simp only [status_dispatch_iff]
    constructor
    · rintro ⟨_, h, e, rfl⟩
      obtain ⟨hcrosses, hfails⟩ := (hdispatch e).mp h
      exact ⟨hcrosses, e, hfails⟩
    · rintro ⟨hcrosses, e, hfails⟩
      exact ⟨_, (hdispatch e).mpr ⟨hcrosses, hfails⟩, e, rfl⟩
  · intro hcrosses e hfails
    have hreturned := (hdispatch e).mpr ⟨hcrosses, hfails⟩
    exact ⟨e.message, _, e.reads_message, (hanswered _).mpr ⟨_, hreturned, rfl⟩,
      shows_errorResponse 502 _⟩
  · rw [hstatus]
    simp only [status_ok_iff]
    constructor
    · rintro ⟨_, h, outcome, rfl⟩
      exact ⟨outcome, h⟩
    · rintro ⟨outcome, h⟩
      exact ⟨_, h, outcome, rfl⟩
  · intro outcome houtcome
    refine (hanswered _).mpr ⟨_, houtcome, ?_⟩
    cases outcome with
    | recorded n => exact congrArg (Response.json 200) (Outcome.text_recorded n)
    | alerted n => exact congrArg (Response.json 200) (Outcome.text_alerted n)

/-- The HTTP request that reports a failure without particulars. -/
def bareReport : Http.Request where
  method := "POST"
  target := "/api/v1/failures".toList
  contentType := some "application/json"
  body := "\x7b\"standard_logging_object\":\x7b\x7d\x7d".toUTF8.toList

theorem reports_bareReport : Reports bareReport ⟨some {}⟩ where
  method := rfl
  route := by decide
  body := by decide +kernel

/-- A service that raises an alarm over every failure. -/
def everyFailure : Service := ⟨perMinute 1, .ofSeconds 300, true⟩

/-- A second failure is reported and its page is sent; then the page over the first one is refused. -/
def lateRefusal : List Happening := [
  .act (.ask (second 1) ⟨2⟩ bareReport), .act (.pass (.ofSeconds 5)), .act (.complete 1 (.ok ())),
  .act (.complete 0 (.error (.http "refused")))]

/-- The first failure raises an alarm, and its page is held. The one who reported it is answered when the
page is refused, whatever has happened in between. -/
theorem status_agrees_with_late_refusal :
    let st := everyFailure.reached Outbox.transport {} []
    Reports bareReport ⟨some {}⟩ ∧
      (everyFailure.alarm.step st.line.state (.record (some (second 0)) ⟨some {}⟩)).2.1.Crosses ∧
      everyFailure.Fails Outbox.transport (second 0) ⟨1⟩ bareReport st lateRefusal (.http "refused") ∧
      everyFailure.response? Outbox.transport (second 0) ⟨1⟩ bareReport st lateRefusal =
        some {
          status := 502
          contentType := some "application/json"
          body := "\x7b\"error\":\"Alert dispatch failed: Request failed: refused\"\x7d" } := by
  have hreached : everyFailure.alarm.policy.isReached (everyFailure.alarm.inWindow (second 0)
      ((everyFailure.reached Outbox.transport {} []).line.state.store.failures ++
        [LoggingPayload.toFailure {} (second 0)])).length = true := by decide
  have hcrossing := record_reached rfl hreached
  have hcrosses : (everyFailure.alarm.step (everyFailure.reached Outbox.transport {} []).line.state
      (.record (some (second 0)) ⟨some {}⟩)).2.1.Crosses := by
    rw [hcrossing.reply]
    exact ⟨_, rfl⟩
  have hpages := pages_report reports_bareReport everyFailure Outbox.transport (second 0) ⟨1⟩
    (everyFailure.reached Outbox.transport {} [])
  rw [hcrossing.pages] at hpages
  have hfails : everyFailure.Fails Outbox.transport (second 0) ⟨1⟩ bareReport
      (everyFailure.reached Outbox.transport {} []) lateRefusal (.http "refused") :=
    ⟨_, hpages, rfl⟩
  obtain ⟨-, hreport⟩ := status_agrees_with_state everyFailure Outbox.transport {} [] lateRefusal
    (second 0) ⟨1⟩ bareReport
  obtain ⟨-, -, -, hrefused, -⟩ := hreport ⟨some {}⟩ reports_bareReport
  obtain ⟨words, response, hwords, hanswered, hshows⟩ := hrefused hcrosses _ hfails
  cases hwords
  refine ⟨reports_bareReport, hcrosses, hfails, ?_⟩
  rw [hanswered, hshows.literally]
  rfl

end Service
end FailureAlarm
