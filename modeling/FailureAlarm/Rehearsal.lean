import FailureAlarm.Alarm.Transport
import FailureAlarm.Time.Clock

/-!
# Rehearsals

An alarm on a settable clock, with a transport that follows a script: a way to try out a policy, or
to replay what happened. Calls are numbered in their order. A call whose page is held waits, and its
result can be asked for once, after the page has been released.
-/

namespace FailureAlarm
namespace Rehearsal

/-- A call: its result has been reported, or it waits for a sending, or its result is there to be
asked for. -/
inductive Call where
  | reported
  | waiting (number : Nat)
  | ready (answer : Answer)

/-- A request that was started; its owner holds it until it ends. -/
structure Started where
  request : Request
  inFlight : Bool

/-- The state of a rehearsal. -/
structure Scene where
  line : Line Script
  clock : ManualClock
  /-- The next look at the clock fails. -/
  clockBroken : Bool := false
  calls : List Call := []
  requests : List Started := []

/-- A step of a rehearsal. -/
inductive Act where
  | record (notification : Notification)
  | recordAll (notifications : List Notification)
  | dispatch (message : String) (details : Details)
  | build (message : String) (details : Details)
  | release (held : Nat) (result : Except PagingError Unit)
  | result (call : Nat)
  | setClock (time : Instant)
  | advanceClock (span : Int)
  | breakClock
  | retained
  | start (id : RequestId) (callType : CallType) (model : Option String)
  | finish (request : Nat)
  | completed
  | sleep (duration : Duration)

/-- What a step shows. -/
inductive Shown where
  | nothing
  | recorded (progress : Progress (Except AlarmError Outcome))
  | allRecorded (progress : List (Progress (Except AlarmError Outcome)))
  | dispatched (progress : Progress (Except PagingError Unit))
  | body (page : Page)
  | wasHeld (yes : Bool)
  | waiting
  | answer (answer : Answer)
  | alreadyReported
  | noSuchCall
  | clock (advanced : Option Instant)
  | retained (progress : Progress (Except AlarmError Nat))
  | started (request : Request)
  | wasInFlight (yes : Bool)
  | completions (requests : List (RequestId × Bool))

/-- The scene before the first step. -/
def begin (script : List Delivery) (now : Instant) : Scene :=
  { line := { state := {}, transport := { coming := script } }, clock := ⟨now⟩ }

/-- What a look at the clock gives. -/
def reading (s : Scene) : Reading := if s.clockBroken then none else s.clock.look

/-- A broken clock has been looked at, and is mended. -/
def afterLook {α : Type} (s : Scene) : Progress α → Scene
  | .crashed => { s with clockBroken := false }
  | _ => s

/-- The call to which a page belongs that was just handed over, or has just been sent. -/
def callOf {α : Type} : Progress α → Call
  | .sending number => .waiting number
  | _ => .reported

/-- Record failures one after the other. -/
def recordAll (a : Alarm) : Scene → List Notification →
    Scene × List (Progress (Except AlarmError Outcome)) × Traffic
  | s, [] => (s, [], {})
  | s, n :: rest =>
    let (line, progress, traffic) := s.line.record a Script.transport (reading s) n
    let (s, more, later) := recordAll a (afterLook { s with line } progress) rest
    (s, progress :: more, traffic ++ later)

/-- The answers have come for calls that waited. -/
def informed (answers : List (Nat × Answer)) : Call → Call
  | .waiting number =>
    match answers.find? (·.1 = number) with
    | some (_, answer) => .ready answer
    | none => .waiting number
  | c => c

/-- Take one step. -/
def act (a : Alarm) (s : Scene) : Act → Scene × Shown × Traffic
  | .record n =>
    let (line, progress, traffic) := s.line.record a Script.transport (reading s) n
    let s := afterLook { s with line } progress
    ({ s with calls := s.calls ++ [callOf progress] }, .recorded progress, traffic)
  | .recordAll ns =>
    let (s, progress, traffic) := recordAll a s ns
    (s, .allRecorded progress, traffic)
  | .dispatch message details =>
    let (line, progress, traffic) := s.line.dispatch a Script.transport message details
    ({ s with line, calls := s.calls ++ [callOf progress] }, .dispatched progress, traffic)
  | .build message details => (s, .body (a.dispatcher.page message details), {})
  | .release held result =>
    match s.line.transport.held[held]? with
    | none => (s, .wasHeld false, {})
    | some number =>
      let (line, traffic) := s.line.complete number result
      ({ s with line, calls := s.calls.map (informed traffic.answers) },
        .wasHeld !traffic.answers.isEmpty, traffic)
  | .result call =>
    match s.calls[call]? with
    | none => (s, .noSuchCall, {})
    | some .reported => (s, .alreadyReported, {})
    | some (.waiting _) => (s, .waiting, {})
    | some (.ready answer) =>
      ({ s with calls := s.calls.set call .reported }, .answer answer, {})
  | .setClock t => ({ s with clock := s.clock.set t }, .nothing, {})
  | .advanceClock span =>
    ({ s with clock := s.clock.advance span }, .clock ((s.clock.advance? span).map (·.now)), {})
  | .breakClock => ({ s with clockBroken := true }, .nothing, {})
  | .retained =>
    let (line, progress, traffic) := s.line.retained a Script.transport (reading s)
    (afterLook { s with line } progress, .retained progress, traffic)
  | .start id callType model =>
    let request : Request := ⟨id, callType, model, s.clock.now⟩
    let (line, traffic) := s.line.watch a Script.transport true request
    ({ s with line, requests := s.requests ++ [⟨request, true⟩] }, .started request, traffic)
  | .finish k =>
    match s.requests[k]? with
    | some ⟨request, true⟩ =>
      ({ s with
          line := { s.line with state := Alarm.release request.id s.line.state }
          requests := s.requests.set k ⟨request, false⟩ },
        .wasInFlight true, {})
    | _ => (s, .wasInFlight false, {})
  | .completed => (s, .completions (s.requests.map fun r => (r.request.id, !r.inFlight)), {})
  | .sleep d =>
    let (line, traffic) := s.line.pass a Script.transport d
    ({ s with line }, .nothing, traffic)

end Rehearsal
end FailureAlarm
