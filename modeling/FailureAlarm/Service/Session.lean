import FailureAlarm.LogFilter
import FailureAlarm.Service.Start

/-!
# Sessions with the service

A session is the use of a service by one caller: requests are answered one after the other, and the
requests that the service starts get their identifiers from a sequence. `Course.run` goes through the
whole life of the program: it is started, serves a session, and is stopped.
-/

namespace FailureAlarm

/-- A service in use: what its clock shows, its state, and how many requests it has started. -/
structure Session (τ : Type) where
  now : Instant
  state : Service.State τ
  started : Nat := 0

namespace Session

variable {τ : Type}

/-- Ask for something. -/
def ask (s : Service) (t : Transport τ) (c : Session τ) (r : Http.Request) :
    Session τ × Option Http.Response × Traffic :=
  let fresh := RequestId.ofCount c.started
  let (state, response, traffic) := s.handle t c.now fresh r c.state
  let started := if state.inFlight.any (·.id = fresh) then c.started + 1 else c.started
  ({ c with state, started }, response, traffic)

/-- Ask for one thing after the other: the answers, and what was logged on the way. -/
def askAll (s : Service) (t : Transport τ) :
    Session τ → List Http.Request → Session τ × List (Option Http.Response) × List LogLine
  | c, [] => (c, [], [])
  | c, r :: rs =>
    let (c, response, traffic) := ask s t c r
    let (c, responses, log) := askAll s t c rs
    (c, response :: responses, traffic.log ++ log)

/-- Let time pass. -/
def pass (s : Service) (t : Transport τ) (d : Duration) (c : Session τ) : Session τ × Traffic :=
  let (state, traffic) := s.pass t d c.state
  ({ c with state }, traffic)

/-- A count of the failures during which the clock fails; whether it came that far. -/
def poison (s : Service) (t : Transport τ) (c : Session τ) : Session τ × Bool :=
  let (line, progress, _) := c.state.line.retained s.alarm t none
  let crashed := match progress with
    | .crashed => true
    | _ => false
  ({ c with state := { c.state with line } }, crashed)

end Session

/-- The course of the program: why it did not start, what it answered and logged, how many requests
it started, and what became of the peer that takes its pages. -/
structure Course (σ : Type) where
  error : Option StartError := none
  responses : List (Option Http.Response) := []
  log : List LogLine := []
  /-- The log has the form of JSON. -/
  json : Bool := false
  started : Nat := 0
  peer : σ

namespace Course

variable {σ : Type}

/-- Start the program, make requests, and stop it. `now` is what the clock shows all the time. -/
def run (files environment : List (String × String)) (isKnown : ListenAddress → Bool)
    (peer : Http.Peer σ) (s : σ) (now : Instant) (requests : List Http.Request) : Course σ :=
  let value? (name : String) := (environment.find? (·.1 = name)).map (·.2)
  match Settings.load files environment with
  | .error e => { error := some (.settings e), peer := s }
  | .ok settings =>
    let filter := LogFilter.ofEnvironment (value? LogFilter.environmentVariable)
    let key := (value? routingKeyVariable).map fun v => v.toUTF8.toList
    let json := settings.logging.json
    match Service.start settings key isKnown with
    | (log, .error e) => { error := some e, log := log.filter filter.passes, json, peer := s }
    | (log, .ok (service, _)) =>
      let first : Session σ := { now, state := { line := { state := {}, transport := s } } }
      let (c, responses, served) :=
        Session.askAll service (Service.postTransport settings.paging peer) first requests
      { responses
        log := (log ++ served ++ [Service.stopped]).filter filter.passes
        json
        started := c.started
        peer := c.state.line.transport }

/-- The number with which the program ends. -/
def exitCode (c : Course σ) : Nat := if c.error.isNone then 0 else 1

end Course
end FailureAlarm
