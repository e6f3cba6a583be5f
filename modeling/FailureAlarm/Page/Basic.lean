import FailureAlarm.Page.RoutingKey
import FailureAlarm.Json.Decode

/-!
# Pages

A page asks the paging service to raise a critical alert. It holds the alert and the routing key
of the destination. `Page.toJson` and `Page.decoder` are its form on the wire.
-/

namespace FailureAlarm

open Json (Value Decoder)

/-- How severe an alert is; all of them are critical. -/
inductive Severity where
  | critical
deriving DecidableEq, Repr, Inhabited

/-- What the paging service is asked to do. -/
inductive PageAction where
  | trigger
deriving DecidableEq, Repr, Inhabited

/-- The members of an object in the order of their keys. -/
abbrev Details := List (String × Value)

/-- An alert: what happened and where. -/
structure Alert where
  summary : String
  severity : Severity
  source : String
  component : String
  details : Details
deriving Inhabited

/-- An alert with its destination. -/
structure Page where
  alert : Alert
  routingKey : String
  action : PageAction
deriving Inhabited

namespace Alert

def toJson (a : Alert) : Value :=
  .object [
    ("summary", .string a.summary),
    ("severity", .string "critical"),
    ("source", .string a.source),
    ("component", .string a.component),
    ("custom_details", .object a.details)]

def decoder : Decoder Alert :=
  Decoder.record ⟨"PagerDutyPayload",
    [ Decoder.field "summary" .required Decoder.string fun v a => { a with summary := v },
      Decoder.field "severity" .required (Decoder.oneOf [("critical", Severity.critical)])
        fun v a => { a with severity := v },
      Decoder.field "source" .required Decoder.string fun v a => { a with source := v },
      Decoder.field "component" .required Decoder.string fun v a => { a with component := v },
      Decoder.field "custom_details" .required Decoder.map fun v a => { a with details := v } ],
    ⟨"", .critical, "", "", []⟩⟩

end Alert

namespace Page

def toJson (p : Page) : Value :=
  .object [
    ("payload", p.alert.toJson),
    ("routing_key", .string p.routingKey),
    ("event_action", .string "trigger")]

def decoder : Decoder Page :=
  Decoder.record ⟨"PagerDutyRequestBody",
    [ Decoder.field "payload" .required Alert.decoder fun v p => { p with alert := v },
      Decoder.field "routing_key" .required Decoder.string fun v p => { p with routingKey := v },
      Decoder.field "event_action" .required (Decoder.oneOf [("trigger", PageAction.trigger)])
        fun v p => { p with action := v } ],
    ⟨default, "", .trigger⟩⟩

/-- The body of the request that sends the page. -/
def body (p : Page) : String := p.toJson.text

end Page

/-- Where pages go and what they say about their origin. -/
structure PagingConfig where
  endpoint : String := "https://events.pagerduty.com/v2/enqueue"
  timeoutSeconds : Nat := 10
  source : String := "LLM Gateway Alert"
  component : String := "llm-gateway"
deriving DecidableEq, Repr, Inhabited

namespace PagingConfig

def toJson (c : PagingConfig) : Value :=
  .object [
    ("endpoint", .string c.endpoint),
    ("timeout_secs", .ofNat c.timeoutSeconds),
    ("source", .string c.source),
    ("component", .string c.component)]

def decoder : Decoder PagingConfig :=
  Decoder.record ⟨"PagerConfig",
    [ Decoder.field "endpoint" .defaulted Decoder.string fun v c => { c with endpoint := v },
      Decoder.field "timeout_secs" .defaulted (Decoder.nat64 "u64")
        fun v c => { c with timeoutSeconds := v },
      Decoder.field "source" .defaulted Decoder.string fun v c => { c with source := v },
      Decoder.field "component" .defaulted Decoder.string fun v c => { c with component := v } ],
    {}⟩

end PagingConfig

/-- Builds critical pages of one origin for one destination. -/
structure Dispatcher where
  routingKey : RoutingKey
  source : String
  component : String

namespace Dispatcher

def ofConfig (routingKey : RoutingKey) (c : PagingConfig) : Dispatcher :=
  ⟨routingKey, c.source, c.component⟩

/-- The page with this message and these details. -/
def page (d : Dispatcher) (message : String) (details : Details) : Page :=
  ⟨⟨message, .critical, d.source, d.component, details⟩, d.routingKey.text, .trigger⟩

end Dispatcher
end FailureAlarm
