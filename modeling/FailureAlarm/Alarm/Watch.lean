import FailureAlarm.Alarm.Basic

/-!
# Watching requests in flight

A request that is handed to the watchdog is watched until it ends or its latency budget has passed,
whichever comes first; at the very end of the budget it counts as hanging. Then one page about it is
handed to the transport, and it is watched no longer. Ending a request later, or failing to send the
page, changes nothing.

All requests have the same budget, so they come due in the order in which they were started.
-/

namespace FailureAlarm

/-- The whole budget of a watched request has passed. -/
def Watched.isDue (now : Duration) (w : Watched) : Bool := w.deadline.nanoseconds ≤ now.nanoseconds

namespace Alarm

/-- The page about a request that has been in flight for its whole budget. -/
def hangingPage (a : Alarm) (budget : Duration) (r : Request) : Page :=
  let model := r.model.getD Digest.placeholder
  a.dispatcher.page
    s!"Hanging request: {r.callType.name} call to {model} has not completed after {budget.seconds} seconds."
    [ ("call_type", .string r.callType.name),
      ("model", .string model),
      ("request_id", .string r.id.text),
      ("started_at", .string (Rfc3339.utc r.startedAt)) ]

/-- A request turns out to hang. -/
def hang (a : Alarm) (budget : Duration) (r : Request) (s : State) : State × Effects :=
  let counted := { s with metrics := { s.metrics with hanging := s.metrics.hanging + 1 } }
  let (sent, handed) := counted.handOver (a.hangingPage budget r) (.hanging r.id)
  (sent, .line .warn "alerting::watchdog"
    s!"Request {r.id.text} ({r.callType.name}) still running after {budget.seconds}s" ++ handed)

/-- The hook before a call: hand the request to the watchdog. Without a runtime for its timers it
watches nothing. -/
def watch (a : Alarm) (runtime : Bool) (r : Request) (s : State) : State × Effects :=
  let hook := Effects.line .debug "alerting::engine"
    s!"Pre-call hook for {r.callType.name} request {r.id.text}"
  match a.watchdog with
  | .off => (s, hook ++ .line .debug "alerting::watchdog"
      s!"Watchdog disabled, not monitoring request {r.id.text}")
  | .hanging budget =>
    if runtime then
      ({ s with watched := s.watched ++ [⟨r, ⟨s.elapsed.nanoseconds + budget.nanoseconds⟩⟩] }, hook)
    else (s, hook ++ .line .warn "alerting::watchdog"
      s!"No async runtime; request {r.id.text} is not monitored")

/-- A request ends, by being finished or by being given up. -/
def release (id : RequestId) (s : State) : State :=
  { s with watched := s.watched.filter fun w => w.request.id ≠ id }

/-- Time passes. The requests that come due are seen by `fire`. -/
def pass (d : Duration) (s : State) : State :=
  { s with elapsed := ⟨s.elapsed.nanoseconds + d.nanoseconds⟩ }

/-- The first watched request that has come due turns out to hang, if there is one, and is watched no
longer. -/
def fire (a : Alarm) (s : State) : Option (State × Effects) :=
  match a.watchdog, s.watched.find? (·.isDue s.elapsed) with
  | .hanging budget, some w =>
    some (a.hang budget w.request { s with watched := s.watched.eraseP (·.isDue s.elapsed) })
  | _, _ => none

end Alarm
end FailureAlarm
