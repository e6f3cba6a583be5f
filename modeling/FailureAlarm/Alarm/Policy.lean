import FailureAlarm.Page.Basic
import FailureAlarm.Digest
import FailureAlarm.Log

/-!
# Alarm policies

A policy says how long failures are retained, how many of them raise an alarm, and how many lines
the alarm shows. A threshold that is not positive is reached by any number of failures. Windows up
to `maxWindow` seconds are accepted.
-/

namespace FailureAlarm

open Json (Value Decoder)

/-- When the failure rate raises an alarm. -/
structure Policy where
  windowSeconds : Nat := 60
  threshold : Int := 1
  maxLines : Nat := Digest.defaultLines
deriving DecidableEq, Repr, Inhabited

namespace Policy

/-- The longest window in seconds: as many as have a number of milliseconds in 64 bits. -/
def maxWindow : Nat := 9223372036854775

/-- So many retained failures raise an alarm. -/
def isReached (p : Policy) (retained : Nat) : Bool := p.threshold ≤ retained

theorem isReached_of_nonpos {p : Policy} (h : p.threshold ≤ 0) (n : Nat) : p.isReached n := by
  simp only [isReached, decide_eq_true_eq]
  omega

def toJson (p : Policy) : Value :=
  .object [
    ("window_seconds", .ofNat p.windowSeconds),
    ("failure_threshold", .ofInt p.threshold),
    ("max_summary_errors", .ofNat p.maxLines)]

def decoder : Decoder Policy :=
  Decoder.record ⟨"AlertingConfig",
    [ Decoder.field "window_seconds" .defaulted (Decoder.nat64 "u64")
        fun v p => { p with windowSeconds := v },
      Decoder.field "failure_threshold" .defaulted Decoder.int64
        fun v p => { p with threshold := v },
      Decoder.field "max_summary_errors" .defaulted (Decoder.nat64 "usize")
        fun v p => { p with maxLines := v } ],
    {}⟩

/-- Warnings about values that are accepted but hardly meant. -/
def warnings (p : Policy) : List LogLine :=
  let warn (applies : Bool) (message : String) : List LogLine :=
    if applies then [⟨.warn, "alerting::config", message⟩] else []
  warn (p.threshold ≤ 0) s!"failure_threshold is {p.threshold}; every failure will page" ++
    warn (p.windowSeconds = 0)
      "window_seconds is 0; failures are pruned as soon as they are recorded" ++
    warn (p.maxLines = 0) "max_summary_errors is 0; alerts will carry no recent errors"

/-- The policy as it is shown in the log. -/
def shown (p : Policy) : String :=
  "AlertingConfig \x7b " ++
    s!"window_seconds: {p.windowSeconds}, failure_threshold: {p.threshold}, " ++
    s!"max_summary_errors: {p.maxLines}" ++ " \x7d"

end Policy

/-- How long a request may be in flight. -/
structure WatchPolicy where
  enabled : Bool := true
  budgetSeconds : Nat := 300
deriving DecidableEq, Repr, Inhabited

namespace WatchPolicy

def toJson (p : WatchPolicy) : Value :=
  .object [
    ("enabled", .bool p.enabled),
    ("latency_budget_secs", .ofNat p.budgetSeconds)]

def decoder : Decoder WatchPolicy :=
  Decoder.record ⟨"WatchdogConfig",
    [ Decoder.field "enabled" .defaulted Decoder.bool fun v p => { p with enabled := v },
      Decoder.field "latency_budget_secs" .defaulted (Decoder.nat64 "u64")
        fun v p => { p with budgetSeconds := v } ],
    {}⟩

end WatchPolicy

/-- Why the alarm could not do what it was asked to. -/
inductive AlarmError where
  | missingPayload
  | windowOutOfRange (seconds : Nat)
  | dispatch (cause : PagingError)
  | storeLocked
deriving DecidableEq, Repr

/-- The error in words. -/
def AlarmError.message : AlarmError → String
  | missingPayload => "standard_logging_object is required for failure-rate alerting"
  | windowOutOfRange seconds =>
    s!"Configuration error: window_seconds {seconds} is out of range"
  | dispatch cause => s!"Alert dispatch failed: {cause.message}"
  | storeLocked => "Failure store lock error: poisoned lock: another task failed inside"

end FailureAlarm
