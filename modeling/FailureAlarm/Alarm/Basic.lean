import FailureAlarm.Alarm.State
import FailureAlarm.Notification

/-!
# The failure-rate alarm

`Alarm.record` takes one failure into the store, drops those that have left the window, and counts
what is left. Below the threshold nothing else happens. At the threshold the store is emptied, and a
page over all that it held is handed to the transport; its sending comes to an end later, see
`State.complete`, and changes nothing in the store.

Both `record` and `retained` read the clock while they hold the store. A clock that fails there
poisons the store: from then on neither of the two can use it.
-/

namespace FailureAlarm

open Json (Value)

/-- What a look at the clock gives: an instant, or none if the clock fails. -/
abbrev Reading := Option Instant

/-- How requests in flight are watched. -/
inductive Watchdog where
  | off
  | hanging (budget : Duration)
deriving DecidableEq, Repr

/-- A failure-rate alarm: its policy, whose window is accepted, and where its pages go. -/
structure Alarm where
  policy : Policy
  accepted : policy.windowSeconds ≤ Policy.maxWindow
  dispatcher : Dispatcher
  watchdog : Watchdog

/-- How far a call has come. -/
inductive Progress (α : Type) where
  /-- It has come to its end. -/
  | finished (result : α)
  /-- It waits for the sending with this number. -/
  | sending (number : Nat)
  /-- It broke off because the clock failed. -/
  | crashed
deriving DecidableEq, Repr

namespace Alarm

/-- Make an alarm. A window that is too long is refused. -/
def ofPolicy (policy : Policy) (dispatcher : Dispatcher) (watchdog : Watchdog) :
    Except AlarmError (Alarm × Effects) :=
  if h : policy.windowSeconds ≤ Policy.maxWindow then
    .ok (⟨policy, h, dispatcher, watchdog⟩,
      { log := policy.warnings ++ [⟨.info, "alerting::engine",
          s!"Creating failure-rate alerter with config: {policy.shown}"⟩] })
  else .error (.windowOutOfRange policy.windowSeconds)

/-- The start of the window that ends at `now`. -/
def cutoff (a : Alarm) (now : Instant) : Instant := now.cutoff a.policy.windowSeconds

/-- The message of an alarm over so many failures. -/
def message (a : Alarm) (failures : Nat) : String :=
  s!"High LLM API Failure Rate: {failures} failures in the last {a.policy.windowSeconds} seconds."

/-- The page over a batch of failures. -/
def page (a : Alarm) (batch : List Failure) : Page :=
  a.dispatcher.page (a.message batch.length)
    [("recent_errors", .array ((Digest.lines batch a.policy.maxLines).map .string))]

/-- What is logged about failures that left the window. -/
def pruneLog (removed : Nat) (cutoff : Instant) : Effects :=
  if 0 < removed then
    .line .debug "failure_store::store"
      s!"Pruned {removed} failure events at or before {Rfc3339.spoken cutoff}"
  else {}

/-- The store that a failure at `now` leaves before it is counted: with the failure at its end and
without those that have left the window. -/
def entered (a : Alarm) (now : Instant) (f : Failure) (store : Store) : Store × Nat :=
  (store.append f).prune (a.cutoff now)

/-- Take a failure at `now` into a store that can be used. -/
def take (a : Alarm) (now : Instant) (f : Failure) (s : State) :
    State × Progress (Except AlarmError Outcome) × Effects :=
  let (kept, removed) := a.entered now f s.store
  let pruned := pruneLog removed (a.cutoff now)
  let recorded := s.metrics.recorded + 1
  if a.policy.isReached kept.size then
    let emptied := { s with
      store := {}
      metrics := { s.metrics with recorded := recorded, retained := some 0 } }
    let crossed := Effects.line .info "alerting::engine"
      s!"Failure threshold crossed: {a.message kept.size}"
    let (sent, handed) := emptied.handOver (a.page kept.failures) (.alarm kept.size)
    (sent, .sending s.nextSending, pruned ++ crossed ++ handed)
  else
    ({ s with
        store := kept
        metrics := { s.metrics with recorded := recorded, retained := some kept.size } },
      .finished (.ok (.recorded kept.size)),
      pruned ++ .line .debug "alerting::engine"
        s!"{kept.size} failures in window, threshold {a.policy.threshold}")

/-- Record one failure. -/
def record (a : Alarm) (reading : Reading) (n : Notification) (s : State) :
    State × Progress (Except AlarmError Outcome) × Effects :=
  match n.payload with
  | none => (s, .finished (.error .missingPayload), {})
  | some payload =>
    if s.poisoned then (s, .finished (.error .storeLocked), {})
    else match reading with
      | none => ({ s with poisoned := true }, .crashed, {})
      | some now => a.take now (payload.toFailure now) s

/-- The number of failures in the window that ends now; those that have left it are dropped. -/
def retained (a : Alarm) (reading : Reading) (s : State) :
    State × Progress (Except AlarmError Nat) × Effects :=
  if s.poisoned then (s, .finished (.error .storeLocked), {})
  else match reading with
    | none => ({ s with poisoned := true }, .crashed, {})
    | some now =>
      let (kept, removed) := s.store.prune (a.cutoff now)
      ({ s with store := kept, metrics := { s.metrics with retained := some kept.size } },
        .finished (.ok kept.size), pruneLog removed (a.cutoff now))

/-- Send a page of one's own. -/
def dispatch (a : Alarm) (message : String) (details : Details) (s : State) :
    State × Progress (Except PagingError Unit) × Effects :=
  let (sent, handed) := s.handOver (a.dispatcher.page message details) .direct
  (sent, .sending s.nextSending, handed)

end Alarm
end FailureAlarm
