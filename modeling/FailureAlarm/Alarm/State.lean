import FailureAlarm.Alarm.Policy
import FailureAlarm.Metrics
import FailureAlarm.RequestId
import FailureAlarm.Store

/-!
# The state of the alarm

Everything that changes while the alarm is at work: the store of retained failures and whether it
has been poisoned, the metrics, the pages that have been handed to the transport and whose fate is
not known yet, and the requests under watch with the time they have left.

A page is handed over in one step and its sending completes in another, at any later time and in any
order. `handOver` gives the sending a number, and `complete` ends it: counts it, logs it, and answers
the one that was waiting for it.
-/

namespace FailureAlarm

open Json (Value)

/-- The kinds of calls to a provider. -/
inductive CallType where
  | completion
  | textCompletion
  | embeddings
  | imageGeneration
  | moderation
  | audioTranscription
  | passThroughEndpoint
  | rerank
deriving DecidableEq, Repr, Inhabited

namespace CallType

/-- The kinds of calls by name. -/
def table : List (String × CallType) := [
  ("completion", completion), ("text_completion", textCompletion), ("embeddings", embeddings),
  ("image_generation", imageGeneration), ("moderation", moderation),
  ("audio_transcription", audioTranscription), ("pass_through_endpoint", passThroughEndpoint),
  ("rerank", rerank)]

def name : CallType → String
  | completion => "completion"
  | textCompletion => "text_completion"
  | embeddings => "embeddings"
  | imageGeneration => "image_generation"
  | moderation => "moderation"
  | audioTranscription => "audio_transcription"
  | passThroughEndpoint => "pass_through_endpoint"
  | rerank => "rerank"

def decoder : Json.Decoder CallType := Json.Decoder.oneOf table

end CallType

/-- A request in flight. -/
structure Request where
  id : RequestId
  callType : CallType
  model : Option String
  startedAt : Instant
deriving DecidableEq, Inhabited

/-- A request under watch, and the time at which it counts as hanging. -/
structure Watched where
  request : Request
  deadline : Duration
deriving DecidableEq, Inhabited

/-- What a page that is being sent is about. -/
inductive Sender where
  /-- An alarm over so many failures. -/
  | alarm (failures : Nat)
  /-- A page that was asked for. -/
  | direct
  /-- A hanging request. -/
  | hanging (id : RequestId)
deriving DecidableEq, Repr, Inhabited

/-- A page that has been handed to the transport and whose fate is not known. -/
structure Sending where
  number : Nat
  sender : Sender
  page : Page
deriving Inhabited

/-- The state of the alarm, see the head of this module. -/
structure State where
  store : Store := {}
  poisoned : Bool := false
  metrics : Metrics := {}
  sending : List Sending := []
  nextSending : Nat := 0
  watched : List Watched := []
  elapsed : Duration := ⟨0⟩
deriving Inhabited

/-- What a step hands to the outside: pages for the transport with the numbers of their sendings,
and log lines. -/
structure Effects where
  pages : List (Nat × Page) := []
  log : List LogLine := []
deriving Inhabited

namespace Effects

/-- The effects of one step and then another. -/
def append (a b : Effects) : Effects := ⟨a.pages ++ b.pages, a.log ++ b.log⟩

instance : Append Effects := ⟨append⟩

/-- One log line. -/
def line (level : Level) (target message : String) : Effects := { log := [⟨level, target, message⟩] }

@[simp] theorem pages_append (a b : Effects) : (a ++ b).pages = a.pages ++ b.pages := rfl

end Effects

/-- What became of a recorded failure. -/
inductive Outcome where
  /-- Below the threshold; so many failures are retained. -/
  | recorded (retained : Nat)
  /-- A page over so many failures was sent, and the window starts over. -/
  | alerted (failures : Nat)
deriving DecidableEq, Repr

def Outcome.toJson : Outcome → Value
  | .recorded n => .object [("outcome", .string "recorded"), ("retained", .ofNat n)]
  | .alerted n => .object [("outcome", .string "alerted"), ("failures", .ofNat n)]

/-- What the end of a sending tells the one that waits for it. -/
inductive Answer where
  | alarm (result : Except AlarmError Outcome)
  | direct (result : Except PagingError Unit)
  | hanging (id : RequestId)

namespace State

/-- Hand a page to the transport. -/
def handOver (s : State) (page : Page) (sender : Sender) : State × Effects :=
  ({ s with
      sending := s.sending ++ [⟨s.nextSending, sender, page⟩]
      nextSending := s.nextSending + 1 },
    { pages := [(s.nextSending, page)] })

/-- The answer to the sender of a page whose sending ended with `result`. -/
def answer (result : Except PagingError Unit) : Sender → Answer
  | .alarm n => .alarm (match result with
    | .ok () => .ok (.alerted n)
    | .error e => .error (.dispatch e))
  | .direct => .direct result
  | .hanging id => .hanging id

/-- What is logged when a sending ends. -/
def completionLog (sending : Sending) : Except PagingError Unit → List LogLine
  | .ok () =>
    [⟨.info, "alerting::dispatcher", s!"Alert dispatched: {sending.page.alert.summary}"⟩]
  | .error e =>
    ⟨.error, "alerting::dispatcher", s!"Alert dispatch failed: {e.message}"⟩ ::
      match sending.sender with
      | .hanging id => [⟨.error, "alerting::watchdog",
          s!"Failed to page for hanging request {id.text}: {e.message}"⟩]
      | _ => []

/-- Count the end of a sending. -/
def count (m : Metrics) : Except PagingError Unit → Metrics
  | .ok () => { m with dispatched := m.dispatched + 1 }
  | .error _ => { m with dispatchFailures := m.dispatchFailures + 1 }

/-- End the sending with this number. Nothing happens if there is none, or no longer. -/
def complete (s : State) (number : Nat) (result : Except PagingError Unit) :
    State × Option Answer × Effects :=
  match s.sending.find? (·.number = number) with
  | none => (s, none, {})
  | some sending =>
    ({ s with
        sending := s.sending.filter (·.number ≠ number)
        metrics := count s.metrics result },
      some (answer result sending.sender), { log := completionLog sending result })

end State
end FailureAlarm
