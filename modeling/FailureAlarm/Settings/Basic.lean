import FailureAlarm.Alarm.Policy

/-!
# Settings of the service

Where the service listens, when its alarm is raised, where pages go, how long a request may be in
flight, and the form of its log. Every part and every setting may be left out.
-/

namespace FailureAlarm

open Json (Value Decoder)

/-- Where the service listens. -/
structure ServerSettings where
  address : String := "0.0.0.0:8080"
deriving DecidableEq, Repr, Inhabited

namespace ServerSettings

def toJson (s : ServerSettings) : Value := .object [("addr", .string s.address)]

def decoder : Decoder ServerSettings :=
  Decoder.record ⟨"ServerSettings",
    [Decoder.field "addr" .defaulted Decoder.string fun v _ => ⟨v⟩], {}⟩

end ServerSettings

/-- The form of the log. -/
structure LogSettings where
  /-- Each line is a JSON object. -/
  json : Bool := false
deriving DecidableEq, Repr, Inhabited

namespace LogSettings

def toJson (s : LogSettings) : Value := .object [("json", .bool s.json)]

def decoder : Decoder LogSettings :=
  Decoder.record ⟨"LoggingSettings",
    [Decoder.field "json" .defaulted Decoder.bool fun v _ => ⟨v⟩], {}⟩

end LogSettings

/-- The settings of the service. -/
structure Settings where
  server : ServerSettings := {}
  alerting : Policy := {}
  paging : PagingConfig := {}
  watchdog : WatchPolicy := {}
  logging : LogSettings := {}
deriving DecidableEq, Repr, Inhabited

namespace Settings

def toJson (s : Settings) : Value :=
  .object [
    ("server", s.server.toJson),
    ("alerting", s.alerting.toJson),
    ("pager", s.paging.toJson),
    ("watchdog", s.watchdog.toJson),
    ("logging", s.logging.toJson)]

def decoder : Decoder Settings :=
  Decoder.record ⟨"Settings",
    [ Decoder.field "server" .defaulted ServerSettings.decoder fun v s => { s with server := v },
      Decoder.field "alerting" .defaulted Policy.decoder fun v s => { s with alerting := v },
      Decoder.field "pager" .defaulted PagingConfig.decoder fun v s => { s with paging := v },
      Decoder.field "watchdog" .defaulted WatchPolicy.decoder fun v s => { s with watchdog := v },
      Decoder.field "logging" .defaulted LogSettings.decoder fun v s => { s with logging := v } ],
    {}⟩

/-- For how long a request is remembered: a minute longer than its latency budget, which leaves time
to page about it before it is forgotten. -/
def requestTtl (s : Settings) : Duration :=
  (Duration.ofSeconds s.watchdog.budgetSeconds).saturatingAdd (Duration.ofSeconds 60)

end Settings
end FailureAlarm
