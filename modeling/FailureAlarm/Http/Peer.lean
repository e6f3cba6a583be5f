import FailureAlarm.Http.Message
import FailureAlarm.Http.Reply
import FailureAlarm.Http.Url
import FailureAlarm.Text.Utf8

/-!
# Exchanges with a peer

A peer listens at one address and replies to requests. An exchange begins with a request for a page
and follows redirections, up to a number of requests; it is a tree, whose branches are what may come
back. `Exchange.run` holds it with a peer. Pages at any other address than the one of the peer cannot
be reached.
-/

namespace FailureAlarm
namespace Http

/-- The request to make after a reply with this status that names another page. -/
def Request.redirected? (r : Request) (status : Nat) : Option Request :=
  if status = 301 ∨ status = 302 ∨ status = 303 then
    some { method := if r.method = "HEAD" then "HEAD" else "GET", target := r.target }
  else if status = 307 ∨ status = 308 then some r
  else none

/-- What the reply to a request for `u` names as the page to ask for instead. -/
def Reply.leadsTo? (r : Reply) (u : Url) : Option Link := do
  let value ← r.location
  let link ← Utf8.text? value
  Url.join? (some u) link.toList

/-- What remains to be done until the last reply is there: nothing, or one more request. -/
inductive Exchange where
  | done (reply : Option Reply)
  | ask (u : Url) (r : Request) (next : Option Reply → Exchange)

namespace Exchange

/-- Ask for a page, and make at most `n` requests in all. -/
def start : (n : Nat) → Url → Request → Exchange
  | 0, _, _ => done none
  | n + 1, u, r =>
    ask u { r with target := u.target } fun
      | none => done none
      | some reply =>
        match r.redirected? reply.status, reply.leadsTo? u with
        | some next, some (.page v) => start n v next
        | some _, some .elsewhere => done none
        | _, _ => done (some reply)

end Exchange

/-- A peer with a state of its own: where it listens, whether over a secure connection, and what it
replies. Without a reply the connection breaks, or the time runs out. -/
structure Peer (σ : Type) where
  secure : Bool := false
  host : Host
  socket : Nat
  reply : σ → Request → Option Reply × σ

/-- The address is one of the peer. -/
def Peer.isAt {σ : Type} (p : Peer σ) (u : Url) : Bool :=
  u.secure = p.secure && u.host = p.host && u.socket = p.socket

/-- Hold an exchange with a peer: the last reply, and the state of the peer after it. -/
def Exchange.run {σ : Type} (p : Peer σ) : Exchange → σ → Option Reply × σ
  | done reply, s => (reply, s)
  | ask u r next, s =>
    if p.isAt u then
      let (reply, s) := p.reply s r
      (next reply).run p s
    else (next none).run p s

/-! ### A peer that follows a script -/

/-- The replies to come, and the requests so far. When the script is at its end, every request is
accepted. -/
structure Rehearsed where
  coming : List (Option Reply) := []
  seen : List Request := []

namespace Rehearsed

/-- Take a request. -/
def reply (s : Rehearsed) (r : Request) : Option Reply × Rehearsed :=
  let seen := s.seen ++ [r]
  match s.coming with
  | [] => (some { status := 202 }, ⟨[], seen⟩)
  | reply :: rest => (reply, ⟨rest, seen⟩)

/-- The peer that follows a script, at this socket of the local host. -/
def peer (socket : Nat) : Peer Rehearsed := { host := .address 0x7F000001, socket, reply }

end Rehearsed
end Http
end FailureAlarm
