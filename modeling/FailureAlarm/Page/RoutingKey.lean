import FailureAlarm.Text.Blank
import FailureAlarm.Text.Utf8

/-!
# Routing keys and paging errors

A routing key names the destination of a page. It is a secret: it is kept verbatim, it is not blank,
and it is never shown.
-/

namespace FailureAlarm

/-- Why a page could not be sent. -/
inductive PagingError where
  | missingRoutingKey
  | client (reason : String)
  | http (reason : String)
  | status (code : Nat) (body : String)
  | serialization (reason : String)
deriving DecidableEq, Repr

/-- The environment variable that holds the routing key. -/
def routingKeyVariable : String := "PAGERDUTY_API_KEY"

/-- The error in words. -/
def PagingError.message : PagingError → String
  | missingRoutingKey => s!"{routingKeyVariable} is not set"
  | client reason => s!"HTTP client error: {reason}"
  | http reason => s!"Request failed: {reason}"
  | status code body => s!"Paging service returned {code}: {body}"
  | serialization reason => s!"Serialization error: {reason}"

/-- The text has no character but blanks. -/
def isBlankText (s : String) : Bool := s.toList.all isBlank

/-- The secret that names the destination of pages. -/
structure RoutingKey where
  text : String
  not_blank : isBlankText text = false
deriving DecidableEq

namespace RoutingKey

/-- The routing key with this text, unless that is blank. -/
def ofText (text : String) : Except PagingError RoutingKey :=
  if h : isBlankText text = false then .ok ⟨text, h⟩ else .error .missingRoutingKey

/-- The routing key that the environment gives: the bytes of its variable, which have to be text. -/
def ofEnvironment : Option (List UInt8) → Except PagingError RoutingKey
  | none => .error .missingRoutingKey
  | some bytes =>
    match Utf8.text? bytes with
    | none => .error .missingRoutingKey
    | some text => ofText text

/-- What is shown in place of a routing key. -/
def shown (_ : RoutingKey) : String := "RoutingKey(***)"

theorem text_ofText {s : String} {k : RoutingKey} (h : ofText s = .ok k) : k.text = s := by
  unfold ofText at h
  split at h
  · cases h; rfl
  · cases h

end RoutingKey
end FailureAlarm
