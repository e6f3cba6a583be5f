/-!
# Routes

The paths that the service knows, and the methods that each allows. A path is matched as it is
written; the part of it that names a request may be anything without a slash.
-/

namespace FailureAlarm

/-- A path that the service knows. -/
inductive Route where
  | health
  | failures
  | requests
  /-- The end of the request with this identifier, as it stands in the path. -/
  | complete (id : List Char)
  | metrics
deriving DecidableEq, Repr

namespace Route

/-- What stands before the identifier of a request. -/
def requestsPrefix : List Char := "/api/v1/requests/".toList

/-- What stands after the identifier of a request. -/
def completeSuffix : List Char := "/complete".toList

/-- The identifier of the request whose end a path names. -/
def completeId? (path : List Char) : Option (List Char) :=
  if requestsPrefix.isPrefixOf path then
    let rest := path.drop requestsPrefix.length
    let id := rest.takeWhile (· ≠ '/')
    if rest.drop id.length = completeSuffix then some id else none
  else none

/-- The route of a path. -/
def ofPath? (path : List Char) : Option Route :=
  if path = "/api/v1/health".toList then some .health
  else if path = "/api/v1/failures".toList then some .failures
  else if path = "/api/v1/requests".toList then some .requests
  else if path = "/metrics".toList then some .metrics
  else (completeId? path).map .complete

/-- The path of a route. -/
def path : Route → List Char
  | .health => "/api/v1/health".toList
  | .failures => "/api/v1/failures".toList
  | .requests => "/api/v1/requests".toList
  | .complete id => requestsPrefix ++ id ++ completeSuffix
  | .metrics => "/metrics".toList

/-- The route only shows something. -/
def isReadOnly : Route → Bool
  | .health | .metrics => true
  | _ => false

/-- The methods that a route allows: those that read, or the one that acts. -/
def allows (r : Route) (method : String) : Bool :=
  if r.isReadOnly then method = "GET" || method = "HEAD" else method = "POST"

/-- The allowed methods in words. -/
def allowed (r : Route) : String := if r.isReadOnly then "GET,HEAD" else "POST"

end Route
end FailureAlarm
