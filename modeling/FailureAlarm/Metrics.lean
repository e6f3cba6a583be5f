/-!
# Metrics

Four counters, and a gauge for the number of retained failures. A metric is exposed once it has been
touched: a counter when it is not zero, the gauge when it has been set.
-/

namespace FailureAlarm

/-- The metrics of the service. -/
structure Metrics where
  recorded : Nat := 0
  dispatched : Nat := 0
  dispatchFailures : Nat := 0
  hanging : Nat := 0
  retained : Option Nat := none
deriving DecidableEq, Repr, Inhabited

namespace Metrics

/-- The metrics that have been touched, in the order of their names: name, kind and value. -/
def touched (m : Metrics) : List (String × String × Nat) :=
  let counter (name : String) (n : Nat) := if n = 0 then [] else [(name, "counter", n)]
  counter "failwatch_alert_dispatch_failures_total" m.dispatchFailures ++
    counter "failwatch_alerts_dispatched_total" m.dispatched ++
    counter "failwatch_failures_recorded_total" m.recorded ++
    counter "failwatch_hanging_requests_total" m.hanging ++
    (m.retained.map fun n => ("failwatch_retained_failures", "gauge", n)).toList

/-- The lines of the exposition: the kinds of the metrics, then their values. -/
def exposition (m : Metrics) : List String :=
  m.touched.map (fun (name, kind, _) => s!"# TYPE {name} {kind}") ++
    m.touched.map (fun (name, _, n) => s!"{name} {n}")

end Metrics
end FailureAlarm
