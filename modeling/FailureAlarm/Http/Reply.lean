import FailureAlarm.Http.Head

/-!
# Replies

What a peer sends back over a connection, until it closes that: a status line, headers, and a body.
The body ends where its length or its last chunk says, or with the connection. Replies that only
announce another one are skipped.

A reply with a head that cannot be read is no reply at all. A body that is cut off does not harm the
head.

Of the headers, only those are kept that say where the body ends or where the page has moved to. The
charset that a `Content-Type` may name is not: no other encodings of texts are modelled here than those
that a byte order mark stands for (`markedText`).
-/

namespace FailureAlarm
namespace Http

/-- A reply. -/
structure Reply where
  status : Nat
  /-- The value of the header that says where the page has moved to. -/
  location : Option (List UInt8) := none
  /-- The body; there is none if it is cut off. -/
  body : Option (List UInt8) := some []
deriving DecidableEq, Repr

namespace Reply

open Digits Head

/-- The reply says that the request was successful. -/
def isSuccess (r : Reply) : Bool := 200 ≤ r.status && r.status < 300

/-- The status line: whether it is of the older version, and the status. -/
def statusLine? (line : List UInt8) : Option (Bool × Nat) :=
  if line.all isText then
    match String.ofList ((chars line).take 9), (chars line).drop 9 with
    | version, a :: b :: c :: rest =>
      if (version = "HTTP/1.1 " ∨ version = "HTTP/1.0 ") ∧ [a, b, c].all isDigit ∧
          (rest = [] ∨ rest.head? = some ' ') ∧ 100 ≤ value [a, b, c] then
        some (version = "HTTP/1.0 ", value [a, b, c])
      else none
    | _, _ => none
  else none

/-! ### Bodies -/

/-- The body of a reply with these headers, `bs` being what follows the head: none if the headers
contradict each other, and none inside if the body is cut off. -/
def body? (older : Bool) (status : Nat) (hs : List Header) (bs : List UInt8) :
    Option (Option (List UInt8)) :=
  if status = 101 ∨ status = 204 ∨ status = 304 then some (some [])
  else match values "transfer-encoding" hs, values "content-length" hs with
    | [], [] => some (some bs)
    | [], lengths => (length? lengths).map fun n => if bs.length < n then none else some (bs.take n)
    | codings, _ =>
      if older then none else some (if isChunked codings then chunks? bs else some bs)

/-! ### Reading -/

/-- Read a reply, after at most `n` that announce it. -/
def readAfter : (n : Nat) → List UInt8 → Option Reply
  | 0, _ => none
  | n + 1, bs => do
    let (line, rest) ← line? (skipLineEnds bs)
    let (older, status) ← statusLine? (trimReturn line)
    let (lines, rest) ← lines? rest
    let hs ← lines.mapM header?
    if status < 200 ∧ status ≠ 101 then readAfter n rest
    else
      let body ← body? older status hs rest
      some { status, location := (values "location" hs).head?, body }

/-- Read a reply from all that came over a connection. -/
def read? (bs : List UInt8) : Option Reply := readAfter bs.length bs

end Reply
end Http
end FailureAlarm
