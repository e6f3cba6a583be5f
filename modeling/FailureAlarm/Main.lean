import FailureAlarm.Http.Wire
import FailureAlarm.LogFilter
import FailureAlarm.LogFormat
import FailureAlarm.Service.Start
import Std.Async.DNS
import Std.Async.Signal
import Std.Async.TCP
import Std.Async.Timer
import Std.Internal.UV.System

/-!
# The program

Loads the settings from the working directory and the environment, and serves HTTP until it is
interrupted. All decisions are made by `Settings.load`, `Service.start` and `Service.handle`; here
their results meet the clock, the network and the log. Every change of the state is one application
of a pure function, so what happens at once in the service is one step of the model.
-/

namespace FailureAlarm
namespace Program

open Std.Async Std.Net

/-- The service at work, with the places of its state and of its log. -/
structure Running where
  service : Service
  paging : PagingConfig
  state : IO.Ref (Service.State Outbox)
  started : Nat
  log : LogLine → IO Unit

/-! ### The clock and the log -/

/-- The present instant. -/
def now : IO Instant := do
  let t ← Std.Time.Timestamp.now
  return (Instant.ofParts? t.val.second.val t.val.nano.val.toNat).getD default

/-- Print a line of the log if the filter lets it through. -/
def print (filter : LogFilter) (json : Bool) (l : LogLine) : IO Unit := do
  if filter.passes l then
    IO.println (l.written json (Rfc3339.zulu (← now)))
    (← IO.getStdout).flush

/-! ### The network -/

/-- The address of a host. -/
def resolve (host : String) (socket : Nat) : Async (Option SocketAddress) := do
  let number := UInt16.ofNat socket
  match IPv4Addr.ofString host with
  | some addr => return some (.v4 ⟨addr, number⟩)
  | none =>
    let found ← DNS.getAddrInfo host "" (some .ipv4)
    return found[0]?.map fun
      | .v4 addr => .v4 ⟨addr, number⟩
      | .v6 addr => .v6 ⟨addr, number⟩

/-- All that comes over a connection until it is closed, or until `enough`. -/
partial def receive (socket : TCP.Socket.Client) (enough : List UInt8 → Bool) (sofar : ByteArray) :
    Async ByteArray := do
  match ← socket.recv? 65536 with
  | none => return sofar
  | some bytes =>
    let all := sofar ++ bytes
    if enough all.toList then return all else receive socket enough all

/-- Make one request. There is no reply where the connection would have to be secured. -/
def ask (u : Http.Url) (r : Http.Request) : Async (Option Http.Reply) := do
  if u.secure then return none
  let some address ← resolve u.hostText u.socket | return none
  let socket ← TCP.Socket.Client.mk
  socket.connect address
  socket.send ⟨(r.bytes u).toArray⟩
  let all ← receive socket (fun _ => false) .empty
  return Http.Reply.read? all.toList

/-- Hold an exchange over the network. -/
def hold : Http.Exchange → Async (Option Http.Reply)
  | .done reply => return reply
  | .ask u r next => do hold (next (← ask u r))

/-! ### The state -/

/-- Take the pages that wait to be sent, and bring the service to the present time. -/
def change {α : Type} (p : Running)
    (f : Service.State Outbox → Service.State Outbox × α × Traffic) :
    IO (α × List (Nat × Page)) := do
  let elapsed := (← IO.monoNanosNow) - p.started
  let (answer, waiting, log) ← p.state.modifyGet fun st =>
    let past := st.line.state.elapsed.nanoseconds
    let (st, before) := p.service.pass Outbox.transport ⟨elapsed - past⟩ st
    let (st, answer, traffic) := f st
    let line := { st.line with transport := {} }
    ((answer, st.line.transport.waiting, before.log ++ traffic.log), { st with line })
  log.forM p.log
  return (answer, waiting)

/-- The longest time that is waited for anything, in milliseconds. -/
def longestWait : Nat := 4611686018427387904

/-- Send a page, and take note of what became of it. -/
def post (p : Running) (number : Nat) (page : Page) : Async (Option Http.Response) := do
  p.log (Service.sendingLog p.paging)
  let limit := Std.Time.Millisecond.Offset.ofNat (min (p.paging.timeoutSeconds * 1000) longestWait)
  let held : Async (Option Http.Reply) := try hold (page.exchange p.paging) catch _ => return none
  let reply ← Async.race held (do sleep limit; return none)
  let result := Page.verdict p.paging.endpoint reply
  let (answer, _) ← change p fun st => Service.complete number result st
  return answer

/-- Send pages one after the other; the first answer that this gives. -/
def postAll (p : Running) : List (Nat × Page) → Async (Option Http.Response)
  | [] => return none
  | (number, page) :: rest => do
    let first ← post p number page
    let more ← postAll p rest
    return first.orElse fun _ => more

/-! ### Connections -/

/-- The bytes are a whole request, or cannot become one. -/
def isWhole (bytes : List UInt8) : Bool :=
  match Http.Incoming.read bytes with
  | .unfinished => false
  | _ => true

/-- Answer a request. -/
def respond (p : Running) (r : Http.Request) : Async (Option Http.Response) := do
  let time ← now
  let bits := (← IO.getRandomBytes 16).toList.foldl (fun n b => n * 256 + b.toNat) 0
  let (answer, waiting) ← change p fun st =>
    p.service.handle Outbox.transport time (.ofRandom bits) r st
  let later ← postAll p waiting
  return answer.orElse fun _ => later

/-- Serve one connection. -/
def converse (p : Running) (socket : TCP.Socket.Client) : Async Unit := do
  let bytes ← receive socket isWhole .empty
  let response ← match Http.Incoming.read bytes.toList with
    | .request r => respond p r
    | .malformed => pure (some { status := 400 })
    | .unfinished => pure none
  if let some response := response then
    socket.send ⟨response.bytes.toArray⟩
    socket.shutdown

/-- Serve connections for ever. -/
partial def accept (p : Running) (server : TCP.Socket.Server) : Async Unit := do
  let socket ← server.accept
  background (do try converse p socket catch _ => pure ())
  accept p server

/-- Let the timers fire for ever. -/
partial def tick (p : Running) : Async Unit := do
  let ((), waiting) ← change p fun st => (st, (), {})
  background (do discard <| postAll p waiting)
  sleep 20
  tick p

/-- Listen at an address until the program is interrupted. -/
def listen (p : Running) (address : ListenAddress) : Async Unit := do
  let some place ← resolve address.host address.socket
    | throw (IO.userError s!"no address for {address.host}")
  let server ← TCP.Socket.Server.mk
  server.bind place
  server.listen 128
  let interrupt ← Signal.Waiter.mk .sigint false
  background (accept p server)
  background (tick p)
  discard <| await (← interrupt.wait)
  p.log Service.stopped

/-! ### The start -/

/-- The files of the working directory that may hold settings. -/
def settingsFiles : IO (List (String × String)) :=
  Settings.fileNames.filterMapM fun (name : String) => do
    try
      let bytes ← IO.FS.readBinFile name
      return some (name, Utf8.lossy bytes.toList)
    catch _ => return none

/-- Show why the program has come to its end. -/
def fail (shown : String) : IO UInt32 := do
  IO.eprintln s!"Error: {shown}"
  return 1

/-- Run the program. -/
def run : IO UInt32 := do
  let environment := (← Std.Internal.UV.System.osEnviron).toList
  let value? (name : String) := (environment.find? (·.1 = name)).map (·.2)
  match Settings.load (← settingsFiles) environment with
  | .error e => fail (StartError.settings e).shown
  | .ok settings =>
    let filter := LogFilter.ofEnvironment (value? LogFilter.environmentVariable)
    let log := print filter settings.logging.json
    log ⟨.info, "failwatch", s!"=== failwatch v{Service.version} ==="⟩
    let key := (value? routingKeyVariable).map fun s => s.toUTF8.toList
    let (lines, result) := Service.start settings key fun _ => true
    lines.forM log
    match result with
    | .error e => fail e.shown
    | .ok (service, address) =>
      let state ← IO.mkRef { line := { state := {}, transport := {} } }
      let started ← IO.monoNanosNow
      try
        (listen ⟨service, settings.paging, state, started, log⟩ address).block
        return 0
      catch e => fail s!"Io({e})"

end Program
end FailureAlarm

def main : IO UInt32 := FailureAlarm.Program.run
