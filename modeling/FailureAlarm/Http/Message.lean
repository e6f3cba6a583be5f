/-!
# HTTP messages

Requests and responses with the parts that matter here. The target of a request is its path, with
the query if it has one.
-/

namespace FailureAlarm
namespace Http

/-- A request. -/
structure Request where
  method : String
  target : List Char
  contentType : Option String := none
  body : List UInt8 := []

/-- The target without query and fragment. -/
def Request.path (r : Request) : List Char := r.target.takeWhile fun c => c ≠ '?' && c ≠ '#'

/-- A response. -/
structure Response where
  status : Nat
  contentType : Option String := none
  /-- The methods that the target allows, where the one of the request is not among them. -/
  allow : Option String := none
  body : String := ""
deriving DecidableEq, Repr

namespace Response

/-- A response of plain text. -/
def plain (status : Nat) (body : String) : Response :=
  { status, contentType := some "text/plain; charset=utf-8", body }

/-- A response that is a JSON text. -/
def json (status : Nat) (body : String) : Response :=
  { status, contentType := some "application/json", body }

/-- The response without its body. -/
def head (r : Response) : Response := { r with body := "" }

end Response
end Http
end FailureAlarm
