import FailureAlarm.Http.Peer
import FailureAlarm.Page.Basic
import FailureAlarm.Text.Marked

/-!
# Posting a page

A page is sent to its endpoint in one POST. A final reply with a status of success means that it has
been taken; any other status is an error together with the text of the reply. Nothing is sent a
second time.

The text of the reply is read by its byte order mark, or else as UTF-8; a charset that the reply names in
its `Content-Type` is not looked at (`markedText`). Whether a page has been taken does not depend on it, and
the status in the error does not either.
-/

namespace FailureAlarm
namespace Page

/-- The request that sends the page. -/
def request (p : Page) : Http.Request :=
  { method := "POST", target := [], contentType := some "application/json",
    body := p.body.toUTF8.toList }

/-- What the final reply to a page means, or that there is none. -/
def verdict (endpoint : String) : Option Http.Reply → Except PagingError Unit
  | none => .error (.http s!"error sending request for url ({endpoint})")
  | some r =>
    if r.isSuccess then .ok ()
    else .error (.status r.status ((r.body.map markedText).getD ""))

/-- At most so many requests are made when an endpoint redirects. -/
def maxRequests : Nat := 10

/-- The exchange in which the page is sent. There is no time for it if the timeout is zero. -/
def exchange (c : PagingConfig) (p : Page) : Http.Exchange :=
  match Http.Url.read? c.endpoint.toList with
  | none => .done none
  | some u => if c.timeoutSeconds = 0 then .done none else .start maxRequests u p.request

/-- Send the page to a peer. -/
def post {σ : Type} (c : PagingConfig) (peer : Http.Peer σ) (p : Page) (s : σ) :
    Except PagingError Unit × σ :=
  let (reply, s) := (p.exchange c).run peer s
  (verdict c.endpoint reply, s)

end Page
end FailureAlarm
