import FailureAlarm.Alarm.Transport
import FailureAlarm.Http.MediaType
import FailureAlarm.Http.Message
import FailureAlarm.Http.Percent
import FailureAlarm.Service.Route
import FailureAlarm.Settings.Basic

/-!
# The service

The service puts an alarm behind HTTP. It takes notifications of failures, hands requests to the
watchdog and is told of their ends, and shows its health and its metrics. A request that nobody ends
is remembered for a limited time, which is longer than its latency budget.

`Service.handle` answers one HTTP request. There is no answer yet while a page that the answer waits
for is being sent.
-/

namespace FailureAlarm

open Json (Value Decoder Fault)
open Http (Response)

/-- A service: its alarm, how long it remembers a request, and whether it shows metrics. -/
structure Service where
  alarm : Alarm
  requestTtl : Duration
  showsMetrics : Bool

/-- A request that has not ended, and the time at which it is forgotten. -/
structure Remembered where
  id : RequestId
  expiry : Duration
deriving DecidableEq

/-- What a start notification says about a request. -/
structure StartNotice where
  callType : CallType
  model : Option String

def StartNotice.decoder : Decoder StartNotice :=
  Decoder.record ⟨"StartRequest",
    [ Decoder.field "call_type" .required CallType.decoder fun v n => { n with callType := v },
      Decoder.field "model" .optional (Decoder.option Decoder.string)
        fun v n => { n with model := v } ],
    ⟨.completion, none⟩⟩

namespace Service

variable {τ α : Type}

/-- The version of the service. -/
def version : String := "0.1.0"

/-- The state of a service: its alarm with the transport, and the requests that have not ended. -/
structure State (τ : Type) where
  line : Line τ
  inFlight : List Remembered := []

/-- Make a service from settings. -/
def ofSettings (settings : Settings) (key : RoutingKey) (showsMetrics : Bool) :
    Except AlarmError (Service × List LogLine) :=
  let watchdog : Watchdog :=
    if settings.watchdog.enabled then .hanging (Duration.ofSeconds settings.watchdog.budgetSeconds)
    else .off
  (Alarm.ofPolicy settings.alerting (.ofConfig key settings.paging) watchdog).map
    fun (alarm, effects) => (⟨alarm, settings.requestTtl, showsMetrics⟩, effects.log)

/-- What is logged before the alarm is made. -/
def dispatcherLog (c : PagingConfig) : LogLine :=
  ⟨.info, "alerting::dispatcher",
    s!"Creating alert dispatcher (source: {c.source}, component: {c.component})"⟩

/-! ### Bodies of requests -/

/-- The longest body that is read, in bytes. -/
def maxBody : Nat := 2097152

/-- The answer to a body that is not what was wanted. -/
def refusal : Fault → Response
  | .malformed => .plain 400 "Failed to parse the request body as JSON"
  | .misfit path cause =>
    let place := match path with
      | [] => ""
      | path => Json.pathText path ++ ": "
    .plain 422
      s!"Failed to deserialize the JSON body into the target type: {place}{cause.message}"

/-- Read the body of a request: its type is looked at first, then its length, then its content. -/
def readBody (decode : Decoder α) (r : Http.Request) : Except Response α :=
  let isJson := (r.contentType.bind fun s => Http.MediaType.read? s.toList).any (·.isJson)
  if ¬ isJson then .error (.plain 415 "Expected request with `Content-Type: application/json`")
  else if maxBody < r.body.length then .error (.plain 413 "Failed to buffer the request body")
  else (Json.decodeBytes decode r.body).mapError refusal

/-! ### Answers -/

/-- The answer that shows an error. -/
def errorResponse (status : Nat) (message : String) : Response :=
  .json status (Value.object [("error", .string message)]).text

/-- The status of the answer to an error of the alarm. -/
def status : AlarmError → Nat
  | .missingPayload => 400
  | .dispatch _ => 502
  | .windowOutOfRange _ | .storeLocked => 500

/-- The answer to an error of the alarm; one that is not the caller's fault is logged. -/
def alarmRefusal (e : AlarmError) : Response × List LogLine :=
  (errorResponse (status e) e.message,
    if 500 ≤ status e then [⟨.error, "api::error", s!"Request failed: {e.message}"⟩] else [])

/-- The answer to the result of a call, if the call has come to its end. -/
def answer (ok : α → Response) : Progress (Except AlarmError α) → Option Response × List LogLine
  | .finished (.ok a) => (some (ok a), [])
  | .finished (.error e) => ((alarmRefusal e).map some id)
  | .sending _ | .crashed => (none, [])

/-! ### Handlers -/

/-- Show the health of the service. -/
def health (s : Service) (t : Transport τ) (now : Instant) (st : State τ) :
    State τ × Option Response × Traffic :=
  let (line, progress, traffic) := st.line.retained s.alarm t (some now)
  let (response, log) := answer (fun retained => .json 200 (Value.object [
      ("status", .string "healthy"),
      ("version", .string version),
      ("uptime_seconds", .ofNat line.state.elapsed.seconds),
      ("retained_failures", .ofNat retained),
      ("in_flight_requests", .ofNat st.inFlight.length)]).text) progress
  ({ st with line }, response, traffic ++ { log := log })

/-- The answer to the one who reported a failure, as far as it has been recorded. -/
def recorded : Progress (Except AlarmError Outcome) → Option Response × List LogLine :=
  answer fun outcome => .json 200 outcome.toJson.text

/-- Record a failure. -/
def recordFailure (s : Service) (t : Transport τ) (now : Instant) (r : Http.Request)
    (st : State τ) : State τ × Option Response × Traffic :=
  match readBody Notification.decoder r with
  | .error response => (st, some response, {})
  | .ok notification =>
    let (line, progress, traffic) := st.line.record s.alarm t (some now) notification
    let (response, log) := recorded progress
    ({ st with line }, response, traffic ++ { log := log })

/-- Remember a request, with the identifier `fresh`, and hand it to the watchdog. -/
def startRequest (s : Service) (t : Transport τ) (now : Instant) (fresh : RequestId)
    (r : Http.Request) (st : State τ) : State τ × Option Response × Traffic :=
  match readBody StartNotice.decoder r with
  | .error response => (st, some response, {})
  | .ok notice =>
    let expiry : Duration := ⟨st.line.state.elapsed.nanoseconds + s.requestTtl.nanoseconds⟩
    let (line, traffic) :=
      st.line.watch s.alarm t true ⟨fresh, notice.callType, notice.model, now⟩
    ({ line, inFlight := st.inFlight ++ [⟨fresh, expiry⟩] },
      some (.json 200 (Value.object [("request_id", .string fresh.text)]).text), traffic)

/-- Forget a request; nobody watches it any longer. -/
def forget (id : RequestId) (st : State τ) : State τ :=
  { line := { st.line with state := Alarm.release id st.line.state }
    inFlight := st.inFlight.filter (·.id ≠ id) }

/-- What is logged about a request by the part of the service that remembers it. -/
def requestLog (message : String) : List LogLine := [⟨.debug, "api::routes::requests", message⟩]

/-- End the request that a part of the path names. -/
def completeRequest (part : List Char) (st : State τ) : State τ × Option Response × Traffic :=
  match (Utf8.text? (Http.Percent.decode part)).bind fun s => RequestId.read? s.toList with
  | none => (st, some (.plain 400 "Invalid URL"), {})
  | some id =>
    if st.inFlight.any (·.id = id) then
      (forget id st, some { status := 204 }, { log := requestLog s!"Request {id.text} completed" })
    else (st, some (errorResponse 404 s!"Unknown request id: {id.text}"), {})

/-- Show the metrics. -/
def metrics (s : Service) (st : State τ) : Response :=
  if s.showsMetrics then
    .plain 200 ("\n".intercalate st.line.state.metrics.exposition)
  else .plain 404 "metrics exporter not installed"

/-- Answer a request. `fresh` is the identifier of a request that it may start. -/
def handle (s : Service) (t : Transport τ) (now : Instant) (fresh : RequestId) (r : Http.Request)
    (st : State τ) : State τ × Option Response × Traffic :=
  match Route.ofPath? r.path with
  | none => (st, some { status := 404 }, {})
  | some route =>
    if ¬ route.allows r.method then
      (st, some { status := 405, allow := some route.allowed }, {})
    else
      let (st, response, traffic) := match route with
        | .health => health s t now st
        | .failures => recordFailure s t now r st
        | .requests => startRequest s t now fresh r st
        | .complete part => completeRequest part st
        | .metrics => (st, some (metrics s st), {})
      (st, if r.method = "HEAD" then response.map Response.head else response, traffic)

/-- A sending comes to its end; whoever reported the failure that the page is about is answered. -/
def complete (number : Nat) (result : Except PagingError Unit) (st : State τ) :
    State τ × Option Response × Traffic :=
  let (line, traffic) := st.line.complete number result
  let (response, log) := match traffic.answerTo? number with
    | some (.alarm result) => recorded (.finished result)
    | _ => (none, [])
  ({ st with line }, response, traffic ++ { log := log })

/-- Let time pass: timers fire, and then requests that nobody has ended are forgotten. -/
def pass (s : Service) (t : Transport τ) (d : Duration) (st : State τ) : State τ × Traffic :=
  let (line, traffic) := st.line.pass s.alarm t d
  let expired := st.inFlight.filter fun r => r.expiry.nanoseconds ≤ line.state.elapsed.nanoseconds
  let log := expired.flatMap fun r => requestLog s!"Request {r.id.text} expired without completing"
  (expired.foldl (fun st r => forget r.id st) { st with line }, traffic ++ { log := log })

end Service
end FailureAlarm
