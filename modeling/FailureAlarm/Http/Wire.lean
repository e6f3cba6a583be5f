import FailureAlarm.Http.Head
import FailureAlarm.Http.Message
import FailureAlarm.Http.Url
import FailureAlarm.Text.Utf8

/-!
# Messages on a connection

Requests and responses as bytes. A connection carries one request and its response, and is closed
after that. `Incoming.read` says what has come in so far.
-/

namespace FailureAlarm
namespace Http

open Digits

/-! ### Writing -/

/-- The bytes of a text. -/
def bytesOf (s : String) : List UInt8 := s.toUTF8.toList

/-- A numeric address in its usual form, of four numbers. -/
def dottedAddress (n : Nat) : String :=
  ".".intercalate ([3, 2, 1, 0].map fun i => toString (n / Nat.pow 256 i % 256))

/-- The host of an address in words. -/
def Url.hostText (u : Url) : String :=
  match u.host with
  | .address n => dottedAddress n
  | .name s => s

/-- The host and the socket of an address, as a header names them. -/
def Url.authority (u : Url) : String := s!"{u.hostText}:{u.socket}"

/-- The bytes of a request for `u`. -/
def Request.bytes (r : Request) (u : Url) : List UInt8 :=
  let type := match r.contentType with
    | some t => s!"content-type: {t}\r\n"
    | none => ""
  bytesOf (s!"{r.method} {String.ofList u.target} HTTP/1.1\r\nhost: {u.authority}\r\n" ++ type ++
    s!"content-length: {r.body.length}\r\nconnection: close\r\n\r\n") ++ r.body

/-- The name of a status. -/
def reason (status : Nat) : String :=
  (([ (200, "OK"), (204, "No Content"), (400, "Bad Request"), (404, "Not Found"),
      (405, "Method Not Allowed"), (413, "Payload Too Large"), (415, "Unsupported Media Type"),
      (422, "Unprocessable Entity"), (500, "Internal Server Error"), (502, "Bad Gateway") ].find?
    (·.1 = status)).map (·.2)).getD ""

/-- The bytes of a response. -/
def Response.bytes (r : Response) : List UInt8 :=
  let line (name : String) (value : Option String) : String := match value with
    | some v => s!"{name}: {v}\r\n"
    | none => ""
  let body := bytesOf r.body
  bytesOf (s!"HTTP/1.1 {r.status} {reason r.status}\r\n" ++ line "content-type" r.contentType ++
    line "allow" r.allow ++
    (if r.status = 204 then "" else s!"content-length: {body.length}\r\n") ++
    "connection: close\r\n\r\n") ++ body

/-! ### Reading -/

/-- What has come in over a connection so far. -/
inductive Incoming where
  | unfinished
  | malformed
  | request (r : Request)

namespace Incoming

open Head

/-- The first line of a request: its method and its target. -/
def requestLine? (line : List UInt8) : Option (String × List Char) :=
  if line.all isText then
    match divide ' ' (chars line) with
    | [method, target, version] =>
      if method ≠ [] ∧ method.all MediaType.isToken ∧ target ≠ [] ∧
          (version = "HTTP/1.1".toList ∨ version = "HTTP/1.0".toList) then
        some (String.ofList method, target)
      else none
    | _ => none
  else none

/-- The body of a request with these headers, as far as it has come in. -/
def ofBody (hs : List Header) (bs : List UInt8) (request : List UInt8 → Request) : Incoming :=
  match values "transfer-encoding" hs, values "content-length" hs with
  | [], [] => .request (request [])
  | [], lengths =>
    match length? lengths with
    | some n => if bs.length < n then .unfinished else .request (request (bs.take n))
    | none => .malformed
  | codings, _ =>
    if isChunked codings then
      match chunks? bs with
      | some body => .request (request body)
      | none => .unfinished
    else .malformed

/-- Read a request from what has come in so far. -/
def read (bs : List UInt8) : Incoming :=
  match line? (skipLineEnds bs) with
  | none => .unfinished
  | some (line, rest) =>
    match requestLine? (trimReturn line), lines? rest with
    | none, _ => .malformed
    | some _, none => .unfinished
    | some (method, target), some (lines, body) =>
      match lines.mapM header? with
      | none => .malformed
      | some hs =>
        let contentType := (values "content-type" hs).head?.map fun v => String.ofList (chars v)
        ofBody hs body fun body => ⟨method, target, contentType, body⟩

end Incoming
end Http
end FailureAlarm
