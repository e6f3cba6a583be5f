import FailureAlarm.Page.Post
import FailureAlarm.Service.Basic
import FailureAlarm.Settings.Load

/-!
# Starting the service

The settings are loaded first. Then the routing key is taken from the environment, the alarm is
made, the exporter of the metrics is put in its place, and the service begins to listen. Whatever
goes wrong first is the reason why the service does not start.
-/

namespace FailureAlarm

/-- Why the service could not start. -/
inductive StartError where
  | settings (cause : Settings.Error)
  | paging (cause : PagingError)
  | alarm (cause : AlarmError)
  /-- There is an exporter of metrics already. -/
  | metrics
  /-- The address to listen at is not a host and a socket. -/
  | address (reason : String)
  /-- The host to listen at is not known. -/
  | host (name : String)
deriving DecidableEq, Repr

namespace StartError

/-- The error in words. -/
def message : StartError → String
  | settings cause => cause.message
  | paging cause => s!"Paging setup error: {cause.message}"
  | alarm cause => s!"Alerter setup error: {cause.message}"
  | metrics => "Metrics exporter error: an exporter has been installed already"
  | address reason => s!"I/O error: {reason}"
  | host name => s!"I/O error: no address for {name}"

/-- The error as the program shows it at its end: which part of the service failed, and why. -/
def shown : StartError → String
  | settings cause => cause.message
  | paging cause => s!"Pager({cause.message})"
  | alarm cause => s!"Alerting({cause.message})"
  | metrics => "Metrics(an exporter has been installed already)"
  | address reason => s!"Io({reason})"
  | host name => s!"Io(no address for {name})"

end StartError

/-- Where to listen. -/
structure ListenAddress where
  host : String
  socket : Nat
deriving DecidableEq, Repr

namespace ListenAddress

/-- Read an address: a host, and the number of a socket after the last colon. -/
def read? (s : String) : Except StartError ListenAddress :=
  let digits := (s.toList.reverse.takeWhile (· ≠ ':')).reverse
  if digits.length = s.toList.length then .error (.address "invalid socket address")
  else match (Digits.unsigned? digits).filter (· ≤ 65535) with
    | some n => .ok ⟨String.ofList (s.toList.take (s.toList.length - digits.length - 1)), n⟩
    | none => .error (.address "invalid port value")

/-- The host is a numeric address, or the local host by its name. -/
def isLocal (a : ListenAddress) : Bool :=
  a.host = "localhost" || (Http.Url.address? (divide '.' a.host.toList)).isSome

end ListenAddress

namespace Service

/-- Make the service. `key` is the routing key that the environment holds, and `exported` says that
there is an exporter of metrics already. -/
def build (settings : Settings) (key : Option (List UInt8)) (exported : Bool) :
    List LogLine × Except StartError Service :=
  match RoutingKey.ofEnvironment key with
  | .error e => ([], .error (.paging e))
  | .ok key =>
    match ofSettings settings key true with
    | .error e => ([dispatcherLog settings.paging], .error (.alarm e))
    | .ok (service, log) =>
      (dispatcherLog settings.paging :: log, if exported then .error .metrics else .ok service)

/-- Make the service, and find out where it listens. `isKnown` says which hosts there are. -/
def start (settings : Settings) (key : Option (List UInt8)) (isKnown : ListenAddress → Bool) :
    List LogLine × Except StartError (Service × ListenAddress) :=
  match build settings key false with
  | (log, .error e) => (log, .error e)
  | (log, .ok service) =>
    let starting : LogLine :=
      ⟨.info, "api", s!"Starting failure-rate alerting service on {settings.server.address}"⟩
    (log ++ [starting], do
      let address ← ListenAddress.read? settings.server.address
      if isKnown address then .ok (service, address) else .error (.host address.host))

/-- What is logged when the service has come to its end. -/
def stopped : LogLine := ⟨.info, "api", "Server stopped; unsent alerts are dropped"⟩

/-- What is logged when a page is about to be posted. -/
def sendingLog (c : PagingConfig) : LogLine :=
  ⟨.debug, "pager::transport", s!"Sending alert to paging service: POST {c.endpoint}"⟩

/-- The transport that posts pages to a peer. -/
def postTransport {σ : Type} (c : PagingConfig) (peer : Http.Peer σ) : Transport σ where
  deliver s _ page :=
    let (result, s) := page.post c peer s
    (.done result, [sendingLog c], s)

end Service
end FailureAlarm
